import DecimalPowers.BinaryFloat
import DecimalPowers.Proofs.Precision.Grid

/-!
The floats of one precision as points of the rational line. A float has the value
`significand * 2 ^ exponent` and the unit `2 ^ exponent` in its last place; a successor lies one
unit above, and the order of the values bounds the exponents.
-/

set_option autoImplicit false
set_option relaxedAutoImplicit false

namespace DecimalPowers

namespace BinaryFloat

def ulp (z : BinaryFloat) : ℚ := 2 ^ z.exponent

def value (z : BinaryFloat) : ℚ := z.significand * z.ulp

theorem ulp_pos (z : BinaryFloat) : 0 < z.ulp := two_zpow_pos z.exponent

private theorem value_add_ulp (z : BinaryFloat) :
    z.value + z.ulp = (z.significand + 1) * z.ulp := by
  rw [value]
  ring

theorem value_eq_exactValue (z : BinaryFloat) :
    z.value = (z.exactValue.1 : ℚ) / z.exactValue.2 := by
  rw [value, ulp, zpow_eq_div (by norm_num), ← mul_div_assoc]
  simp only [exactValue, Nat.pow_eq]
  push_cast
  rfl

theorem exactValue_denom_pos (z : BinaryFloat) : 0 < z.exactValue.2 := Nat.two_pow_pos _

@[ext] theorem ext {a b : BinaryFloat} (precision : a.precision = b.precision)
    (significand : a.significand = b.significand) (exponent : a.exponent = b.exponent) : a = b := by
  cases a
  cases b
  simp_all

theorem ofParts_eq_ok_iff {p : Precision} {sig : ℕ} {exp : ℤ} {z : BinaryFloat} :
    ofParts p sig exp = .ok z ↔ z.precision = p ∧ z.significand = sig ∧ z.exponent = exp := by
  constructor
  · intro h
    unfold ofParts at h
    split at h
    · split at h
      · cases h
        exact ⟨rfl, rfl, rfl⟩
      · cases h
    · cases h
  · rintro ⟨rfl, rfl, rfl⟩
    unfold ofParts
    rw [dif_pos z.normalized, dif_pos z.exponent_mem]

private theorem ofParts_eq_error_iff {p : Precision} {sig : ℕ} {exp : ℤ} {fault : FloatFault}
    (hs : p.Normalized sig) : ofParts p sig exp = .error fault ↔
      exp < minExponent ∧ fault = .subtractionOverflow ∨
        maxExponent < exp ∧ fault = .additionOverflow := by
  unfold ofParts
  rw [dif_pos hs]
  by_cases range : ExponentInRange exp
  · rw [dif_pos range]
    have below : ¬ exp < minExponent := not_lt.mpr range.1
    have above : ¬ maxExponent < exp := not_lt.mpr range.2
    simp [below, above]
  · rw [dif_neg range]
    by_cases below : exp < minExponent
    · have negative : exp < 0 := below.trans (by decide)
      have not_above : ¬ maxExponent < exp := not_lt.mpr (negative.le.trans (by decide))
      rw [if_pos negative]
      simp [below, not_above, eq_comm]
    · have above : maxExponent < exp := not_le.mp fun le => range ⟨not_lt.mp below, le⟩
      have nonneg : ¬ exp < 0 := not_lt.mpr (le_trans (by decide) above.le)
      rw [if_neg nonneg]
      simp [below, above, eq_comm]

theorem exists_ofParts {p : Precision} {sig : ℕ} {exp : ℤ} (hs : p.Normalized sig)
    (hx : ExponentInRange exp) : ∃ z, ofParts p sig exp = .ok z :=
  ⟨⟨p, sig, exp, hs, hx⟩, ofParts_eq_ok_iff.mpr ⟨rfl, rfl, rfl⟩⟩

theorem mul_zpow_le_value_or (z : BinaryFloat) {s : ℕ} (hs : z.precision.Normalized s) (x : ℤ) :
    (s : ℚ) * 2 ^ x ≤ z.value ∨ z.value + z.ulp ≤ s * 2 ^ x := by
  rw [value_add_ulp]
  exact Precision.mul_zpow_le_or_succ_le z.normalized hs z.exponent x

theorem value_lt_of_exponent_lt {a b : BinaryFloat} (hp : a.precision = b.precision)
    (h : a.exponent < b.exponent) : a.value < b.value :=
  Precision.mul_zpow_lt_of_exponent_lt b.normalized (hp ▸ a.normalized) h

theorem exponent_le_of_value_le {a b : BinaryFloat} (hp : a.precision = b.precision)
    (h : a.value ≤ b.value) : a.exponent ≤ b.exponent := by
  by_contra more
  exact absurd h (not_le.mpr (value_lt_of_exponent_lt hp.symm (not_le.mp more)))

theorem value_le_maxSig_mul {z : BinaryFloat} {k : ℤ} (h : z.exponent ≤ k) :
    z.value ≤ z.precision.maxSig * 2 ^ k := by
  rcases h.lt_or_eq with less | same
  · have window := z.precision.normalized_maxSig
    exact (Precision.mul_zpow_lt_of_exponent_lt window z.normalized less).le
  · rw [value, ulp, same]
    exact natCast_mul_zpow_le z.normalized.2 k

theorem eq_of_value_eq {a b : BinaryFloat} (hp : a.precision = b.precision)
    (h : a.value = b.value) : a = b := by
  obtain ⟨significand, exponent⟩ :=
    Precision.parts_eq_of_mul_zpow_eq b.normalized (hp ▸ a.normalized) h
  exact ext hp significand exponent

theorem succ_eq_ok_iff {z w : BinaryFloat} : z.succ = .ok w ↔
    w.precision = z.precision ∧
      (z.significand = z.precision.maxSig ∧ w.significand = z.precision.minSig ∧
          w.exponent = z.exponent + 1 ∨
        z.significand ≠ z.precision.maxSig ∧ w.significand = z.significand + 1 ∧
          w.exponent = z.exponent) := by
  unfold succ
  split
  · next top => simp [ofParts_eq_ok_iff, top]
  · next inner => simp [ofParts_eq_ok_iff, inner]

theorem value_of_succ {z w : BinaryFloat} (h : z.succ = .ok w) : w.value = z.value + z.ulp := by
  rw [value_add_ulp]
  obtain ⟨-, ⟨top, hs, hx⟩ | ⟨-, hs, hx⟩⟩ := succ_eq_ok_iff.mp h
  · have carry : (z.significand + 1 : ℚ) = 2 * z.precision.minSig := by
      rw [top]
      exact z.precision.cast_maxSig_add_one ℚ
    rw [carry, value, ulp, hs, hx, two_zpow_succ, ulp]
    ring
  · rw [value, ulp, hs, hx, ulp]
    push_cast
    ring

theorem ulp_of_succ {z w : BinaryFloat} (h : z.succ = .ok w) :
    z.significand = z.precision.maxSig ∧ w.ulp = 2 * z.ulp ∨
      z.significand ≠ z.precision.maxSig ∧ w.ulp = z.ulp := by
  obtain ⟨-, ⟨top, -, hx⟩ | ⟨inner, -, hx⟩⟩ := succ_eq_ok_iff.mp h
  · left
    exact ⟨top, by rw [ulp, hx, two_zpow_succ, ulp]⟩
  · right
    exact ⟨inner, by rw [ulp, hx, ulp]⟩

theorem succ_eq_error_iff {z : BinaryFloat} {fault : FloatFault} : z.succ = .error fault ↔
    z.significand = z.precision.maxSig ∧ z.exponent = maxExponent ∧ fault = .additionOverflow := by
  have range := z.exponent_mem
  have window := z.normalized
  unfold succ
  split
  · next top =>
    rw [ofParts_eq_error_iff z.precision.normalized_minSig]
    have below : ¬ z.exponent + 1 < minExponent := by omega
    have greatest : maxExponent < z.exponent + 1 ↔ z.exponent = maxExponent := by omega
    simp only [top, below, greatest, true_and, false_and, false_or]
  · next inner =>
    rw [ofParts_eq_error_iff (by omega)]
    have below : ¬ z.exponent < minExponent := not_lt.mpr range.1
    have above : ¬ maxExponent < z.exponent := not_lt.mpr range.2
    simp only [inner, below, above, false_and, or_false]

theorem exists_succ {z : BinaryFloat} (h : z.exponent < maxExponent) : ∃ w, z.succ = .ok w := by
  cases stepped : z.succ with
  | ok w => exact ⟨w, rfl⟩
  | error fault =>
    obtain ⟨-, greatest, -⟩ := succ_eq_error_iff.mp stepped
    exact absurd greatest h.ne

private theorem pred_eq_ok_iff {z w : BinaryFloat} : z.pred = .ok w ↔
    w.precision = z.precision ∧
      (z.significand = z.precision.minSig ∧ w.significand = z.precision.maxSig ∧
          w.exponent = z.exponent - 1 ∨
        z.significand ≠ z.precision.minSig ∧ w.significand = z.significand - 1 ∧
          w.exponent = z.exponent) := by
  unfold pred
  split
  · next bottom => simp [ofParts_eq_ok_iff, bottom]
  · next inner => simp [ofParts_eq_ok_iff, inner]

theorem pred_eq_error_iff {z : BinaryFloat} {fault : FloatFault} : z.pred = .error fault ↔
    z.significand = z.precision.minSig ∧ z.exponent = minExponent ∧
      fault = .subtractionOverflow := by
  have range := z.exponent_mem
  have window := z.normalized
  unfold pred
  split
  · next bottom =>
    rw [ofParts_eq_error_iff z.precision.normalized_maxSig]
    have above : ¬ maxExponent < z.exponent - 1 := by omega
    have least : z.exponent - 1 < minExponent ↔ z.exponent = minExponent := by omega
    simp only [bottom, above, least, true_and, false_and, or_false]
  · next inner =>
    rw [ofParts_eq_error_iff (by omega)]
    have below : ¬ z.exponent < minExponent := not_lt.mpr range.1
    have above : ¬ maxExponent < z.exponent := not_lt.mpr range.2
    simp only [inner, below, above, false_and, or_false]

theorem pred_eq_ok_iff_succ_eq_ok {z w : BinaryFloat} : z.pred = .ok w ↔ w.succ = .ok z := by
  have hz := z.normalized
  have hw := w.normalized
  rw [pred_eq_ok_iff, succ_eq_ok_iff, eq_comm (a := z.precision)]
  apply and_congr_right
  intro hp
  rw [hp] at hw ⊢
  omega

end BinaryFloat

end DecimalPowers
