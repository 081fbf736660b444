import DecimalPowers.Proofs.UlpError.Measure

/-!
The order of errors. Comparing by cross multiplication is comparing as rational numbers, since every
denominator is positive; so errors measured for different floats and precisions have one order, and
they are equal when the rationals are, whatever the fractions look like.
-/

set_option autoImplicit false
set_option relaxedAutoImplicit false

namespace DecimalPowers.UlpError

theorem compare_eq_compare_value (a b : UlpError) : a.compare b = Ord.compare a.value b.value :=
  (compare_div_div a.denom_pos b.denom_pos).symm

theorem isLE_compare_iff_value_le {a b : UlpError} :
    (a.compare b).isLE = true ↔ a.value ≤ b.value := by
  rw [compare, Nat.isLE_compare, value, value, div_le_div_iff₀ a.denom_cast_pos b.denom_cast_pos]
  exact_mod_cast Iff.rfl

private theorem beq_iff_value_eq {a b : UlpError} : (a == b) = true ↔ a.value = b.value := by
  have beq : (a == b) = (a.compare b).isEq := rfl
  rw [beq, Ordering.isEq_iff_eq_eq, compare_eq_compare_value, compare_eq_iff_eq]

private theorem value_measure_eq (f : ℕ) (e : ℤ) (z : BinaryFloat) : (measure f e z).value =
    |(f : ℚ) * 10 ^ e - z.significand * 2 ^ z.exponent| / 2 ^ z.exponent := by
  rw [value_measure, decimalValue, Int.cast_natCast]
  rfl

/-- A measured error is the exact distance in units of the last place. Errors compare with each
other and with one half as the rational numbers that they are, so equal ones may be different
fractions. -/
theorem measure_exact_ordered :
    (∀ (f : ℕ) (e : ℤ) (z : BinaryFloat), 1 ≤ (measure f e z).denom ∧
      (measure f e z).value =
        |(f : ℚ) * 10 ^ e - z.significand * 2 ^ z.exponent| / 2 ^ z.exponent) ∧
    (∀ a b : UlpError, a.compare b = Ord.compare a.value b.value) ∧
    (∀ a b : UlpError, (a.compare b).isLE ∨ (b.compare a).isLE) ∧
    (∀ a b c : UlpError, (a.compare b).isLE → (b.compare c).isLE → (a.compare c).isLE) ∧
    (∀ a b : UlpError, (a == b) = true ↔ a.value = b.value) ∧
    (∀ a : UlpError, a.compareHalf = Ord.compare a.value (1 / 2)) ∧
    ∃ (f g : ℕ) (e d : ℤ) (z w : BinaryFloat), (measure f e z == measure g d w) = true ∧
      (measure f e z).numer ≠ (measure g d w).numer := by
  let two : BinaryFloat := ⟨⟨1, by decide, by decide⟩, 1, 1, by decide, by decide⟩
  let four : BinaryFloat := ⟨⟨1, by decide, by decide⟩, 1, 2, by decide, by decide⟩
  refine ⟨fun f e z => ⟨(measure f e z).denom_pos, value_measure_eq f e z⟩,
    compare_eq_compare_value, fun a b => ?_, fun a b c => ?_, fun a b => beq_iff_value_eq,
    compareHalf_eq_compare, 1, 2, 0, 0, two, four, by decide, by decide⟩
  · rw [isLE_compare_iff_value_le, isLE_compare_iff_value_le]
    exact le_total a.value b.value
  · rw [isLE_compare_iff_value_le, isLE_compare_iff_value_le, isLE_compare_iff_value_le]
    exact le_trans

theorem measure_exact_ordered_across_precisions : ∃ y z w : BinaryFloat,
    y.precision ≠ z.precision ∧
      ((measure 1 0 y).compare (measure 5 (-1) z)).isLE ∧
      ((measure 5 (-1) z).compare (measure 100 0 w)).isLE ∧
      ((measure 1 0 y).compare (measure 100 0 w)).isLE ∧ (measure 5 (-1) z).denom = 10 ∧
      (measure 5 (-1) z).value = 1 := by
  let y : BinaryFloat := ⟨⟨1, by decide, by decide⟩, 1, 1, by decide, by decide⟩
  let z : BinaryFloat := ⟨⟨2, by decide, by decide⟩, 2, -1, by decide, by decide⟩
  let w : BinaryFloat := ⟨⟨1, by decide, by decide⟩, 1, 3, by decide, by decide⟩
  obtain ⟨measured, -, -, trans, -⟩ := measure_exact_ordered
  have half_le : ((measure 1 0 y).compare (measure 5 (-1) z)).isLE = true := by decide
  have one_le : ((measure 5 (-1) z).compare (measure 100 0 w)).isLE = true := by decide
  refine ⟨y, z, w, by decide, half_le, one_le, trans _ _ _ half_le one_le, by decide, ?_⟩
  rw [(measured 5 (-1) z).2]
  norm_num [z]

end DecimalPowers.UlpError
