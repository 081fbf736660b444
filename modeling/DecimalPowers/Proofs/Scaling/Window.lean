import DecimalPowers.Approximation
import DecimalPowers.Proofs.Rounding.Nearest
import DecimalPowers.Proofs.Scaling.Normalization

/-!
The exponent of a scaled value. A positive value divided by `2 ^ k` lies in the octave of the
significands for one `k` only, and normalization ends there; rounding keeps that exponent or raises
it by one.
-/

set_option autoImplicit false
set_option relaxedAutoImplicit false

namespace DecimalPowers

/-- Divided by `2 ^ k` the value lies in the octave of the significands. -/
def InWindow (p : Precision) (V : ℚ) (k : ℤ) : Prop :=
  2 ^ (p.bits - 1) ≤ V / 2 ^ k ∧ V / 2 ^ k < 2 ^ p.bits

section Window

variable {p : Precision} {V : ℚ} {k j : ℤ}

private theorem inWindow_iff :
    InWindow p V k ↔ p.minSig * 2 ^ k ≤ V ∧ V < 2 * p.minSig * 2 ^ k := by
  have least : (2 : ℚ) ^ (p.bits - 1) = p.minSig := by exact_mod_cast p.minSig_eq.symm
  have most : (2 : ℚ) ^ p.bits = 2 * p.minSig := by
    rw [← least, ← pow_succ', Nat.sub_add_cancel p.bits_pos]
  rw [InWindow, le_div_iff₀ (two_zpow_pos k), div_lt_iff₀ (two_zpow_pos k), least, most]

private theorem InWindow.le_of_inWindow (h : InWindow p V k) (h' : InWindow p V j) : j ≤ k := by
  rw [inWindow_iff] at h h'
  by_contra! less
  have octave : (2 : ℚ) ^ (k + 1) ≤ 2 ^ j := zpow_le_zpow_right₀ (by norm_num) less
  have := mul_le_mul_of_nonneg_left octave p.minSig.cast_nonneg
  rw [two_zpow_succ] at this
  linarith

theorem InWindow.iff_eq (h : InWindow p V k) (j : ℤ) : InWindow p V j ↔ j = k := by
  constructor
  · intro h'
    exact le_antisymm (h.le_of_inWindow h') (h'.le_of_inWindow h)
  · rintro rfl
    exact h

private theorem Scaled.inWindow_of_normalized {s : Scaled} (hs : p.Normalized s.ratio.floor) :
    InWindow p s.value s.exponent := by
  have hx := (two_zpow_pos s.exponent).le
  have least : (p.minSig : ℚ) ≤ s.ratio.floor := by exact_mod_cast hs.1
  have most : (s.ratio.floor : ℚ) + 1 ≤ 2 * p.minSig := by
    rw [← p.cast_maxSig_add_one ℚ]
    exact_mod_cast Nat.succ_le_succ hs.2
  rw [inWindow_iff]
  constructor
  · exact (mul_le_mul_of_nonneg_right least hx).trans s.floor_mul_le_value
  · exact s.value_lt_succ_floor_mul.trans_le (mul_le_mul_of_nonneg_right most hx)

theorem Scaled.inWindow_normalize (p : Precision) (s : Scaled) :
    InWindow p s.value (normalize p s).exponent := by
  rw [← s.value_normalize p]
  exact inWindow_of_normalized (normalized_normalize p s)

theorem inWindow_scaleDecimal {f : ℕ} (hf : 0 < f) (e : ℤ) (p : Precision) :
    InWindow p (decimalValue f e) (scaleDecimal f e hf p).exponent := by
  rw [← Ratio.value_ofDecimal e hf, ← Scaled.value_unscaled]
  exact Scaled.inWindow_normalize p _

theorem BinaryFloat.RoundsTo.exponent_eq_or {z : BinaryFloat} (h : z.RoundsTo V)
    (window : InWindow z.precision V k) : z.exponent = k ∨ z.exponent = k + 1 := by
  obtain ⟨lower, upper⟩ := inWindow_iff.mp window
  have width := z.precision.cast_maxSig_add_one ℚ
  have most : z.exponent ≤ k + 1 := by
    have := mul_nonneg (Nat.cast_nonneg z.precision.maxSig) (two_zpow_pos k).le
    rw [h.exponent_le_iff, two_zpow_succ]
    rw [← width] at upper
    linarith
  have least : ¬ z.exponent ≤ k - 1 := by
    have hk := two_zpow_pos (k - 1)
    have twice := two_zpow_succ (k - 1)
    rw [sub_add_cancel] at twice
    have carry : ((z.precision.maxSig : ℚ) + 1) * 2 ^ (k - 1) ≤ V := by
      rw [width]
      rw [twice] at lower
      linarith
    rw [h.exponent_le_iff, not_lt]
    linarith
  omega

end Window

end DecimalPowers
