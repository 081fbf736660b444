import DecimalPowers.Proofs.Approximation.CorrectRounding
import DecimalPowers.Proofs.BinaryFloat.Order

/-!
Approximations of different decimals. Their order follows the order of the exact values, and the
result depends on the value alone: it does not matter in which way the value is split into a
mantissa and a power of ten, nor whether that power is multiplied or divided by.
-/

set_option autoImplicit false
set_option relaxedAutoImplicit false

namespace DecimalPowers

private theorem decimalValue_ten_mul (f e : ℤ) :
    decimalValue (10 * f) e = decimalValue f (e + 1) := by
  rw [decimalValue_add_one, decimalValue, decimalValue]
  push_cast
  ring

private theorem approximate_eq_of_decimalValue_eq {f e g d : ℤ} (hf : Admissible f e) (hg : 0 < g)
    (same : decimalValue g d = decimalValue f e) (p : Precision) :
    (approximate g d p).outcome = (approximate f e p).outcome := by
  obtain ⟨lower, upper⟩ := hf.value_in_range
  rw [← same] at lower upper
  obtain ⟨w, hw, hwp, hwr⟩ := exists_approximate_of_bounds hg lower upper p
  obtain ⟨z, hz, hzp, hzr⟩ := exists_approximate hf p
  rw [same] at hwr
  rw [hw, hz, hwr.unique hzr (hwp.trans hzp.symm)]

private theorem isLE_compare_of_approximate {f e g d : ℤ} (hf : Admissible f e)
    (hg : Admissible g d)
    {p : Precision} {z w : BinaryFloat} (hz : (approximate f e p).outcome = .ok z)
    (hw : (approximate g d p).outcome = .ok w) (h : decimalValue f e ≤ decimalValue g d) :
    (z.compare w).isLE = true := by
  obtain ⟨hzp, hzr⟩ := approximate_roundsTo hf hz
  obtain ⟨hwp, hwr⟩ := approximate_roundsTo hg hw
  have hp : z.precision = w.precision := hzp.trans hwp.symm
  exact (BinaryFloat.isLE_compare_iff_value_le hp).mpr (hzr.mono hwr hp h)

/-- Approximations are ordered as the values approximated, so equal values have the same one; moving
a factor of ten from the power to the mantissa changes nothing, at any exponent. -/
theorem approximate_mono {f e g d : ℤ} (hf : Admissible f e) (hg : Admissible g d)
    (p : Precision) :
    ∃ z w, (approximate f e p).outcome = .ok z ∧ (approximate g d p).outcome = .ok w ∧
      (decimalValue f e ≤ decimalValue g d → (z.compare w).isLE = true) ∧
      (decimalValue f e = decimalValue g d → z = w) ∧
      (FitsInt32 (e + 1) → ∃ y, (approximate f (e + 1) p).outcome = .ok y ∧
        (approximate (10 * f) e p).outcome = .ok y) := by
  obtain ⟨z, hz, -⟩ := exists_approximate hf p
  obtain ⟨w, hw, -⟩ := exists_approximate hg p
  refine ⟨z, w, hz, hw, isLE_compare_of_approximate hf hg hz hw, fun same => ?_, fun fits => ?_⟩
  · have equal := approximate_eq_of_decimalValue_eq hg hf.pos same p
    rw [hz, hw] at equal
    exact Except.ok.inj equal
  · have shifted : Admissible f (e + 1) := ⟨hf.pos, hf.lt, fits⟩
    have positive : 0 < 10 * f := mul_pos (by norm_num) hf.pos
    obtain ⟨y, hy, -⟩ := exists_approximate shifted p
    refine ⟨y, hy, ?_⟩
    rw [approximate_eq_of_decimalValue_eq shifted positive (decimalValue_ten_mul f e) p, hy]

theorem approximate_mono_across_zero :
    Admissible 1 (-1) ∧ Admissible 2 0 ∧ ∃ y z w,
      (approximate 1 (-1) Precision.full).outcome = .ok z ∧
      (approximate 2 0 Precision.full).outcome = .ok w ∧ (z.compare w).isLE = true ∧
      (approximate 1 0 Precision.full).outcome = .ok y ∧
      (approximate 10 (-1) Precision.full).outcome = .ok y := by
  have tenth : Admissible 1 (-1) := .one (by decide)
  have two : Admissible 2 0 := .of_word (m := 2) (by decide) (by decide) (by decide)
  obtain ⟨z, w, hz, hw, ordered, -, moved⟩ := approximate_mono tenth two Precision.full
  obtain ⟨y, hy, same⟩ := moved (by decide)
  have less : decimalValue 1 (-1) ≤ decimalValue 2 0 := by norm_num [decimalValue]
  exact ⟨tenth, two, y, z, w, hz, hw, ordered less, hy, same⟩

end DecimalPowers
