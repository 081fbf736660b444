import DecimalPowers.Proofs.Approximation.SelfTest
import DecimalPowers.Proofs.BinaryFloat.Order

/-!
What the self-test accepts. A float less than half a unit off is the rounded value, with one
exception: at the bottom of a binade its unit is twice the spacing below it, so it is also accepted
for values that round to the float just below.
-/

set_option autoImplicit false
set_option relaxedAutoImplicit false

namespace DecimalPowers

namespace BinaryFloat

section Distance

variable {z w : BinaryFloat} {V : ℚ}

private theorem RoundsTo.abs_sub_value_le (hw : w.RoundsTo V) (hp : z.precision = w.precision) :
    |V - w.value| ≤ |V - z.value| :=
  hw.nearest (hp ▸ z.normalized) z.exponent

private theorem RoundsTo.eq_or_value_lt (hw : w.RoundsTo V) (hp : z.precision = w.precision)
    (near : |V - z.value| < z.ulp / 2) : w = z ∨ w.value < z.value := by
  have closest := hw.abs_sub_value_le hp
  rcases mul_zpow_le_value_or z (hp ▸ w.normalized) w.exponent with below | above
  · change w.value ≤ z.value at below
    rcases below.lt_or_eq with less | same
    · exact .inr less
    · exact .inl (eq_of_value_eq hp.symm same)
  · change z.value + z.ulp ≤ w.value at above
    have := neg_abs_le (V - w.value)
    have := le_abs_self (V - z.value)
    linarith

private theorem RoundsTo.parts_of_value_lt (hw : w.RoundsTo V) (hp : z.precision = w.precision)
    (near : |V - z.value| < z.ulp / 2) (less : w.value < z.value) :
    z.significand = z.precision.minSig ∧ w.significand = z.precision.maxSig ∧
      w.exponent = z.exponent - 1 ∧ z.precision.maxSig * 2 ^ (z.exponent - 1) < V := by
  have closest := hw.abs_sub_value_le hp
  obtain ⟨above, -⟩ := abs_lt.mp near
  rcases value_add_ulp_le_of_lt hp.symm less with far | ⟨bottom, le⟩
  · have := le_abs_self (V - w.value)
    linarith
  -- the greatest float of the lower binade lies between the rounded value and `V`
  have gap := maxSig_mul_zpow_of_bottom bottom
  have past : z.precision.maxSig * 2 ^ (z.exponent - 1) < V := by linarith
  have top := hw.nearest (hp ▸ z.precision.normalized_maxSig) (z.exponent - 1)
  rw [← hp, abs_of_pos (sub_pos.mpr past)] at top
  have same : w.value = z.precision.maxSig * 2 ^ (z.exponent - 1) := by
    have := le_abs_self (V - w.value)
    linarith
  obtain ⟨hs, hx⟩ := Precision.parts_eq_of_mul_zpow_eq z.precision.normalized_maxSig
    (hp ▸ w.normalized) same
  exact ⟨bottom, hs, hx, past⟩

/-- A value that rounds down to the greatest float of a binade is less than half a unit away from
the bottom of the next one. -/
theorem RoundsTo.abs_sub_value_lt_of_top (hw : w.RoundsTo V)
    (bottom : z.significand = z.precision.minSig) (top : w.significand = z.precision.maxSig)
    (below : w.exponent = z.exponent - 1)
    (past : z.precision.maxSig * 2 ^ (z.exponent - 1) < V) : |V - z.value| < z.ulp / 2 := by
  have gap := maxSig_mul_zpow_of_bottom bottom
  have unit : w.ulp = z.ulp / 2 := by rw [ulp_div_two, ulp, below]
  have value : w.value = z.precision.maxSig * 2 ^ (z.exponent - 1) := by
    rw [BinaryFloat.value, unit, ulp_div_two, top]
  have := w.ulp_pos
  obtain ⟨-, upper⟩ := abs_le.mp hw.abs_sub_value.1
  rw [abs_lt]
  constructor
  · linarith
  · linarith

private theorem RoundsTo.abs_sub_value_lt_iff (hw : w.RoundsTo V) (hp : z.precision = w.precision) :
    |V - z.value| < z.ulp / 2 ↔
      z = w ∧ |V - z.value| ≠ z.ulp / 2 ∨
      z.significand = z.precision.minSig ∧ w.significand = z.precision.maxSig ∧
        w.exponent = z.exponent - 1 ∧ z.precision.maxSig * 2 ^ (z.exponent - 1) < V := by
  constructor
  · intro near
    rcases hw.eq_or_value_lt hp near with rfl | less
    · exact .inl ⟨rfl, near.ne⟩
    · exact .inr (hw.parts_of_value_lt hp near less)
  · rintro (⟨rfl, off⟩ | ⟨bottom, top, below, past⟩)
    · exact hw.abs_sub_value.1.lt_of_ne off
    · exact hw.abs_sub_value_lt_of_top bottom top below past

end Distance

end BinaryFloat

private theorem exists_verify_iff {f : ℕ} {e : ℤ} {z : BinaryFloat} :
    (∃ error, (verify f e z).outcome = .ok error) ↔ |decimalValue f e - z.value| < z.ulp / 2 := by
  have half : (UlpError.measure f e z).isBelowHalf = true ↔
      |decimalValue f e - z.value| < z.ulp / 2 := by
    rw [UlpError.isBelowHalf_iff, UlpError.value_measure, div_lt_iff₀ z.ulp_pos, one_div_mul_eq_div]
  rw [← half, verify_outcome]
  split
  · next below => simp [below]
  · next off => simp [off]

/-- The self-test accepts the rounded float unless its error is exactly half a unit, and beside it
only the float at the bottom of a binade, for a value that rounds to the float just below and lies
above that. Every other float is refused. -/
theorem verify_accepts_iff {f : ℕ} {e : ℤ} (h : Admissible f e) (z : BinaryFloat) :
    ∃ w : BinaryFloat, (approximate f e z.precision).outcome = .ok w ∧
      ((∃ error, (verify f e z).outcome = .ok error) ↔
        z = w ∧ |decimalValue f e - z.value| ≠ 2 ^ (z.exponent - 1) ∨
        z.significand = z.precision.minSig ∧ w.significand = z.precision.maxSig ∧
          w.exponent = z.exponent - 1 ∧
          z.precision.maxSig * 2 ^ (z.exponent - 1) < decimalValue f e) ∧
      (z ≠ w → ¬ (z.significand = z.precision.minSig ∧ w.succ = .ok z) →
        (verify f e z).outcome = .error (.refused (.inaccurate e z (UlpError.measure f e z)))) := by
  obtain ⟨w, hw, hp, rounds⟩ := exists_approximate h z.precision
  have accepted := (exists_verify_iff (f := f) (e := e)).trans (rounds.abs_sub_value_lt_iff hp.symm)
  refine ⟨w, hw, z.ulp_div_two ▸ accepted, fun differ apart => ?_⟩
  have refused : ¬ ∃ error, (verify f e z).outcome = .ok error := by
    intro passed
    rcases accepted.mp passed with ⟨same, -⟩ | ⟨bottom, top, below, -⟩
    · exact differ same
    · have next : w.succ = .ok z := BinaryFloat.succ_eq_ok_iff.mpr
        ⟨hp.symm, .inl ⟨hp ▸ top, hp ▸ bottom, by omega⟩⟩
      exact apart ⟨bottom, next⟩
  have outcome := verify_outcome f e z
  split at outcome
  · exact absurd ⟨_, outcome⟩ refused
  · exact outcome

/-- At 2 bits `1.6` rounds to `1.5`, and the self-test also accepts `2`, whose unit is `1`. -/
theorem verify_accepts_above_rounded :
    Admissible 16 (-1) ∧ ∃ z w : BinaryFloat, z.significand = 2 ∧ z.exponent = 0 ∧
      (approximate 16 (-1) z.precision).outcome = .ok w ∧ w.significand = 3 ∧ w.exponent = -1 ∧
      ∃ error, (verify 16 (-1) z).outcome = .ok error := by
  have admissible : Admissible (16 : ℕ) (-1) := .of_word (by decide) (by decide) (by decide)
  let z : BinaryFloat := ⟨⟨2, by decide, by decide⟩, 2, 0, by decide, by decide⟩
  let t : BinaryFloat := ⟨⟨2, by decide, by decide⟩, 3, -1, by decide, by decide⟩
  have down : t.RoundsTo (decimalValue (16 : ℕ) (-1)) := by
    apply BinaryFloat.RoundsTo.down
    · norm_num [t, BinaryFloat.Truncates, BinaryFloat.value, BinaryFloat.ulp, decimalValue]
    · norm_num [t, BinaryFloat.RoundsUp, BinaryFloat.value, BinaryFloat.ulp, decimalValue]
  obtain ⟨w, hw, accepted, -⟩ := verify_accepts_iff admissible z
  obtain ⟨hp, rounds⟩ := approximate_roundsTo admissible hw
  obtain rfl : w = t := rounds.unique down hp
  refine ⟨admissible, z, t, rfl, rfl, hw, rfl, rfl, accepted.mpr (.inr ⟨rfl, rfl, rfl, ?_⟩)⟩
  norm_num [z, Precision.maxSig, decimalValue]

end DecimalPowers
