import DecimalPowers.Proofs.BinaryFloat.Value

/-!
The order of floats. It goes by the exponent and then by the significand. Between floats of one
precision it is the order of their exact values, and over floats of all precisions it is a total
order: two floats compare equal only if they are the same, precision included.
-/

set_option autoImplicit false
set_option relaxedAutoImplicit false

namespace DecimalPowers

namespace BinaryFloat

variable {a b : BinaryFloat}

theorem compare_eq_lt_iff : a.compare b = .lt ↔
    a.exponent < b.exponent ∨ a.exponent = b.exponent ∧ a.significand < b.significand := by
  rw [compare, Ordering.then_eq_lt, Int.compare_eq_lt, Int.compare_eq_eq, Nat.compare_eq_lt]

theorem isLE_compare_iff : (a.compare b).isLE = true ↔
    a.exponent < b.exponent ∨ a.exponent = b.exponent ∧ a.significand ≤ b.significand := by
  rw [compare, Ordering.isLE_then_iff_or, Int.compare_eq_lt, Int.compare_eq_eq, Nat.isLE_compare]

/-- The significand tells the precision, so floats that compare equal are the same. -/
theorem compare_eq_eq_iff : a.compare b = .eq ↔ a = b := by
  rw [compare, Ordering.then_eq_eq, Int.compare_eq_eq, Nat.compare_eq_eq]
  constructor
  · rintro ⟨exponent, significand⟩
    have precision := Precision.eq_of_normalized a.normalized (significand ▸ b.normalized)
    exact ext precision significand exponent
  · rintro rfl
    exact ⟨rfl, rfl⟩

instance : Std.TransCmp compare :=
  inferInstanceAs (Std.TransCmp (compareLex (compareOn exponent) (compareOn significand)))

instance : Std.LawfulEqCmp compare where
  compare_self := compare_eq_eq_iff.mpr rfl
  eq_of_compare := compare_eq_eq_iff.mp

theorem isLE_compare_iff_value_le (hp : a.precision = b.precision) :
    (a.compare b).isLE = true ↔ a.value ≤ b.value := by
  rw [isLE_compare_iff]
  constructor
  · rintro (less | ⟨same, le⟩)
    · exact (value_lt_of_exponent_lt hp less).le
    · rw [value, value, ulp, ulp, same]
      exact natCast_mul_zpow_le le b.exponent
  · intro h
    rcases (exponent_le_of_value_le hp h).lt_or_eq with less | same
    · exact .inl less
    · right
      refine ⟨same, ?_⟩
      rw [value, value, ulp, ulp, same] at h
      exact_mod_cast le_of_mul_le_mul_right h (two_zpow_pos b.exponent)

private theorem compare_swap (a b : BinaryFloat) : b.compare a = (a.compare b).swap :=
  Std.OrientedCmp.eq_swap

theorem compare_eq_compare_value (hp : a.precision = b.precision) :
    a.compare b = Ord.compare a.value b.value := by
  have forward := isLE_compare_iff_value_le hp
  have backward := isLE_compare_iff_value_le hp.symm
  rw [compare_swap a b] at backward
  cases order : a.compare b with
  | lt =>
    rw [order] at backward
    have less : a.value < b.value := by simpa using backward
    exact (compare_lt_iff_lt.mpr less).symm
  | eq =>
    rw [order] at forward backward
    have same : a.value = b.value := le_antisymm (forward.mp rfl) (backward.mp rfl)
    exact (compare_eq_iff_eq.mpr same).symm
  | gt =>
    rw [order] at forward
    have more : b.value < a.value := by simpa using forward
    exact (compare_gt_iff_gt.mpr more).symm

/-- The order of the exact values, as fractions by cross multiplication. -/
def compareExact (a b : BinaryFloat) : Ordering :=
  Ord.compare (a.exactValue.1 * b.exactValue.2) (b.exactValue.1 * a.exactValue.2)

private theorem compareExact_eq_compare_value (a b : BinaryFloat) :
    a.compareExact b = Ord.compare a.value b.value := by
  rw [a.value_eq_exactValue, b.value_eq_exactValue, compareExact,
    compare_div_div a.exactValue_denom_pos b.exactValue_denom_pos]

theorem compareExact_eq_lt_iff : a.compareExact b = .lt ↔ a.value < b.value := by
  rw [compareExact_eq_compare_value, compare_lt_iff_lt]

theorem ulp_div_two (z : BinaryFloat) : z.ulp / 2 = 2 ^ (z.exponent - 1) := by
  have shift := two_zpow_succ (z.exponent - 1)
  rw [sub_add_cancel] at shift
  rw [ulp, shift, mul_div_cancel_left₀ _ (by norm_num)]

private theorem maxSig_mul_zpow_sub_one (z : BinaryFloat) :
    z.precision.maxSig * (2 : ℚ) ^ (z.exponent - 1) = z.precision.minSig * z.ulp - z.ulp / 2 := by
  rw [← ulp_div_two, eq_sub_of_add_eq (z.precision.cast_maxSig_add_one ℚ)]
  ring

theorem maxSig_mul_zpow_of_bottom {z : BinaryFloat} (h : z.significand = z.precision.minSig) :
    z.precision.maxSig * (2 : ℚ) ^ (z.exponent - 1) = z.value - z.ulp / 2 := by
  rw [maxSig_mul_zpow_sub_one, value, h]

theorem value_add_ulp_le_of_lt (hp : a.precision = b.precision) (h : a.value < b.value) :
    a.value + b.ulp ≤ b.value ∨
      b.significand = b.precision.minSig ∧ a.value ≤ b.precision.maxSig * 2 ^ (b.exponent - 1) := by
  have hulp := b.ulp_pos
  rcases (exponent_le_of_value_le hp h.le).lt_or_eq with below | same
  · have le : a.value ≤ b.precision.maxSig * 2 ^ (b.exponent - 1) :=
      hp ▸ value_le_maxSig_mul (by omega)
    by_cases bottom : b.significand = b.precision.minSig
    · exact .inr ⟨bottom, le⟩
    · left
      have inner : ((b.precision.minSig + 1 : ℕ) : ℚ) * 2 ^ b.exponent ≤ b.value := by
        apply natCast_mul_zpow_le
        have := b.normalized.1
        omega
      rw [maxSig_mul_zpow_sub_one] at le
      push_cast at inner
      unfold ulp at *
      linarith
  · left
    have less : a.significand + 1 ≤ b.significand := by
      rw [value, value, ulp, ulp, same] at h
      exact_mod_cast lt_of_mul_lt_mul_right h (two_zpow_pos b.exponent).le
    have := natCast_mul_zpow_le less b.exponent
    rw [value, ulp, same, value, ulp]
    push_cast at this
    linarith

/-- The order of floats is that of the exact values where the precision is the same, and it is total
on floats of any precisions, since the widths partition the positive words. -/
theorem compare_exact_total :
    (∀ a b : BinaryFloat, a.precision = b.precision → a.compare b = a.compareExact b) ∧
    (∀ a b : BinaryFloat, b.compare a = (a.compare b).swap) ∧
    (∀ a b : BinaryFloat, (a.compare b).isLE ∨ (b.compare a).isLE) ∧
    (∀ a b : BinaryFloat, (a.compare b).isLE → (b.compare a).isLE → a = b) ∧
    (∀ a b c : BinaryFloat, (a.compare b).isLE → (b.compare c).isLE → (a.compare c).isLE) ∧
    (∀ a b : BinaryFloat, a.compare b = .eq ↔ a = b) ∧
    ∀ sig : ℕ, 0 < sig → sig < UInt64.size → ∃! p : Precision, p.Normalized sig := by
  refine ⟨fun a b hp => ?_, compare_swap, fun a b => ?_, fun a b le ge => ?_, fun a b c => ?_,
    fun a b => compare_eq_eq_iff, fun sig => Precision.existsUnique_normalized⟩
  · rw [compare_eq_compare_value hp, compareExact_eq_compare_value]
  · rw [compare_swap a b]
    cases a.compare b <;> decide
  · exact Std.LawfulEqCmp.eq_of_compare (Std.OrientedCmp.isLE_antisymm le ge)
  · exact Std.TransCmp.isLE_trans

theorem compare_exact_total_at_ends : ∃ a b c : BinaryFloat,
    a.precision = b.precision ∧ a.exponent = minExponent ∧ b.exponent = maxExponent ∧
      a.compareExact b = .lt ∧ b.precision ≠ c.precision ∧ (b.compare c).isLE ∧
      (a.compare c).isLE ∧ ∃! p : Precision, p.Normalized c.significand := by
  let a : BinaryFloat := ⟨⟨1, by decide, by decide⟩, 1, minExponent, by decide, by decide⟩
  let b : BinaryFloat := ⟨⟨1, by decide, by decide⟩, 1, maxExponent, by decide, by decide⟩
  let c : BinaryFloat := ⟨Precision.full, 2 ^ 63, maxExponent, by decide, by decide⟩
  obtain ⟨ordered, -, -, -, trans, -, unique⟩ := compare_exact_total
  have less : a.compare b = .lt := compare_eq_lt_iff.mpr (.inl (by decide))
  have le : (a.compare b).isLE = true := by rw [less, Ordering.isLE_lt]
  have le' : (b.compare c).isLE = true := isLE_compare_iff.mpr (.inr ⟨rfl, by decide⟩)
  refine ⟨a, b, c, rfl, rfl, rfl, (ordered a b rfl).symm.trans less, by decide, le',
    trans a b c le le', unique c.significand c.significand_pos c.significand_lt⟩

end BinaryFloat

end DecimalPowers
