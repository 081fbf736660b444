import DecimalPowers.Proofs.Rounding.Nearest

/-!
Midpoints. A rational halfway between two neighbouring floats of one binade is an odd multiple of a
power of two with one bit more than the significands. The distance of a rounded value is at most
half a unit of the result, and it is half a unit exactly there: past the greatest significand of a
binade the unit of the result is twice as large.
-/

set_option autoImplicit false
set_option relaxedAutoImplicit false

namespace DecimalPowers

/-- The rational is halfway between two neighbouring floats with the same exponent. -/
def IsInnerMidpoint (p : Precision) (V : ℚ) : Prop :=
  ∃ (m : ℕ) (j : ℤ), Odd m ∧ 2 ^ p.bits < m ∧ m < 2 ^ (p.bits + 1) - 1 ∧ V = m * 2 ^ j

namespace BinaryFloat

private theorem Truncates.isInnerMidpoint_iff {t : BinaryFloat} {V : ℚ} (ht : t.Truncates V) :
    IsInnerMidpoint t.precision V ↔
      V = t.value + t.ulp / 2 ∧ t.significand ≠ t.precision.maxSig := by
  have window := t.precision.maxSig_add_one
  have width := t.precision.maxSig_add_one_eq_two_pow
  constructor
  · rintro ⟨m, j, ⟨q, rfl⟩, above, below, hV⟩
    rw [pow_succ] at below
    have hq : t.precision.Normalized q := ⟨by omega, by omega⟩
    have mid : V = (q + 1 / 2) * 2 ^ (j + 1) := by
      rw [hV, two_zpow_succ]
      push_cast
      ring
    have hj := two_zpow_pos (j + 1)
    obtain ⟨hs, hx⟩ := ht.parts_eq hq (by linarith) (by linarith)
    constructor
    · rw [mid, value, ulp, hs, hx]
      ring
    · omega
  · rintro ⟨mid, inner⟩
    have hs := t.normalized
    refine ⟨2 * t.significand + 1, t.exponent - 1, ⟨t.significand, rfl⟩, by omega, ?_, ?_⟩
    · rw [pow_succ]
      omega
    · have half := two_zpow_succ (t.exponent - 1)
      rw [sub_add_cancel] at half
      rw [mid, value, ulp, half]
      push_cast
      ring

theorem RoundsTo.abs_sub_value {z : BinaryFloat} {V : ℚ} (h : z.RoundsTo V) :
    |V - z.value| ≤ z.ulp / 2 ∧
      (|V - z.value| = z.ulp / 2 ↔ IsInnerMidpoint z.precision V) := by
  cases h with
  | down ht hn =>
    have half := le_midpoint_of_not_roundsUp hn
    rw [abs_of_nonneg (sub_nonneg.mpr ht.1), ht.isInnerMidpoint_iff]
    refine ⟨by linarith, fun tie => ?_, fun mid => by linarith [mid.1]⟩
    refine ⟨by linarith, fun top => hn (.inr ⟨by linarith, ?_⟩)⟩
    rw [top]
    exact z.precision.maxSig_mod_two
  | @up t z ht hr hz =>
    have half := hr.midpoint_le
    have hulp := t.ulp_pos
    have hp := (succ_eq_ok_iff.mp hz).1
    rw [value_of_succ hz, abs_sub_comm, abs_of_nonneg (by linarith [ht.2]), hp,
      ht.isInnerMidpoint_iff]
    rcases ulp_of_succ hz with ⟨top, hu⟩ | ⟨inner, hu⟩
    · refine ⟨by linarith, fun tie => by linarith, fun mid => absurd top mid.2⟩
    · refine ⟨by linarith, fun tie => ⟨by linarith, inner⟩, fun mid => by linarith [mid.1]⟩

end BinaryFloat

end DecimalPowers
