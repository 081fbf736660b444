import DecimalPowers.Proofs.BinaryFloat.Order
import DecimalPowers.Proofs.Outcome

/-!
Walks from float to float. The floats of one precision are numbered in ascending order, and every
step up or down changes the number by one; so a walk of any length ends at the float whose number
says so, or fails with an overflow where that float would have an exponent out of range.
-/

set_option autoImplicit false
set_option relaxedAutoImplicit false

namespace DecimalPowers

namespace BinaryFloat

/-- The number of a float among those of its precision. The least significand with the exponent zero
has the number zero. -/
def rank (z : BinaryFloat) : ℤ :=
  z.exponent * z.precision.minSig + (z.significand - z.precision.minSig)

section Rank

variable {a b : BinaryFloat} {p : Precision} {r : ℤ}

private theorem rank_ediv_minSig (z : BinaryFloat) : z.rank / z.precision.minSig = z.exponent := by
  have hm := z.precision.minSig_cast_pos
  have window := z.normalized
  have top := z.precision.maxSig_add_one
  have first : ((z.significand : ℤ) - z.precision.minSig) / z.precision.minSig = 0 :=
    Int.ediv_eq_zero_of_lt (by omega) (by omega)
  rw [rank, add_comm, Int.add_mul_ediv_right _ _ hm.ne', first, zero_add]

private theorem eq_of_rank_eq (hp : a.precision = b.precision) (h : a.rank = b.rank) : a = b := by
  have exponent : a.exponent = b.exponent := by
    rw [← a.rank_ediv_minSig, ← b.rank_ediv_minSig, h, hp]
  have significand : a.significand = b.significand := by
    unfold rank at h
    rw [hp, exponent] at h
    omega
  exact ext hp significand exponent

private theorem exists_rank_eq (lower : minExponent ≤ r / p.minSig)
    (upper : r / p.minSig ≤ maxExponent) :
    ∃ w : BinaryFloat, w.precision = p ∧ w.rank = r := by
  have hm := p.minSig_cast_pos
  have nonneg := Int.emod_nonneg r hm.ne'
  have less := Int.emod_lt_of_pos r hm
  have top := p.maxSig_add_one
  have window : p.Normalized (p.minSig + (r % p.minSig).toNat) := ⟨by omega, by omega⟩
  refine ⟨⟨p, _, r / p.minSig, window, lower, upper⟩, rfl, ?_⟩
  have parts := Int.ediv_mul_add_emod r p.minSig
  simp only [rank]
  omega

private theorem exists_rank_between (hp : a.precision = b.precision) (lower : a.rank ≤ r)
    (upper : r ≤ b.rank) : ∃ w : BinaryFloat, w.precision = a.precision ∧ w.rank = r := by
  have hm := a.precision.minSig_cast_pos
  have above := Int.ediv_le_ediv hm lower
  have below := Int.ediv_le_ediv hm upper
  rw [a.rank_ediv_minSig] at above
  rw [hp, b.rank_ediv_minSig, ← hp] at below
  exact exists_rank_eq (a.exponent_mem.1.trans above) (below.trans b.exponent_mem.2)

private theorem rank_add_one_of_top {z : BinaryFloat} (top : z.significand = z.precision.maxSig) :
    z.rank + 1 = (z.exponent + 1) * z.precision.minSig := by
  have carry := z.precision.cast_maxSig_add_one ℤ
  rw [rank, top]
  linarith

private theorem rank_of_succ {z w : BinaryFloat} (h : z.succ = .ok w) : w.rank = z.rank + 1 := by
  obtain ⟨hp, ⟨top, hs, hx⟩ | ⟨-, hs, hx⟩⟩ := succ_eq_ok_iff.mp h
  · rw [rank_add_one_of_top top, rank, hp, hs, hx, sub_self, add_zero]
  · rw [rank, rank, hp, hs, hx]
    push_cast
    ring

end Rank

/-- A step that changes the number by `d`, and fails only where there is no such float. -/
def MovesBy (step : BinaryFloat → Except FloatFault BinaryFloat) (d : ℤ) : Prop :=
  ∀ z w, step z = .ok w ↔ w.precision = z.precision ∧ w.rank = z.rank + d

private theorem succ_movesBy : MovesBy succ 1 := by
  intro z w
  constructor
  · intro h
    exact ⟨(succ_eq_ok_iff.mp h).1, rank_of_succ h⟩
  · rintro ⟨hp, hr⟩
    cases h : z.succ with
    | ok y =>
      have same : y.precision = w.precision := (succ_eq_ok_iff.mp h).1.trans hp.symm
      rw [eq_of_rank_eq same ((rank_of_succ h).trans hr.symm)]
    | error fault =>
      -- the number after the greatest float belongs to an exponent out of range
      obtain ⟨top, greatest, -⟩ := succ_eq_error_iff.mp h
      have range := w.exponent_mem.2
      have past : w.rank = (maxExponent + 1) * z.precision.minSig := by
        rw [hr, rank_add_one_of_top top, greatest]
      rw [← w.rank_ediv_minSig, past, hp,
        Int.mul_ediv_cancel _ z.precision.minSig_cast_pos.ne'] at range
      omega

private theorem pred_movesBy : MovesBy pred (-1) := by
  intro z w
  rw [pred_eq_ok_iff_succ_eq_ok, succ_movesBy w z, eq_comm]
  apply and_congr_right
  intro
  omega

section Walk

variable {step : BinaryFloat → Except FloatFault BinaryFloat} {d : ℤ} {z w : BinaryFloat} {n : ℕ}
  {fault : FloatFault}

private theorem walk_add_one (step : BinaryFloat → Except FloatFault BinaryFloat) (n : ℕ)
    (z : BinaryFloat) : walk step (n + 1) z = (step z).bind (walk step n) := rfl

/-- A walk changes the number by as much as its steps together. -/
theorem MovesBy.walk (h : MovesBy step d) (n : ℕ) : MovesBy (walk step n) (n * d) := by
  induction n with
  | zero =>
    intro z w
    rw [Nat.cast_zero, zero_mul, add_zero]
    constructor
    · intro same
      cases same
      exact ⟨rfl, rfl⟩
    · rintro ⟨hp, hr⟩
      rw [eq_of_rank_eq hp hr]
      rfl
  | succ n ih =>
    intro z w
    rw [walk_add_one, bind_eq_ok_iff]
    push_cast
    constructor
    · rintro ⟨y, first, rest⟩
      obtain ⟨hyp, hyr⟩ := (h z y).mp first
      obtain ⟨hwp, hwr⟩ := (ih y w).mp rest
      exact ⟨hwp.trans hyp, by linarith⟩
    · rintro ⟨hp, hr⟩
      -- the float after the first step has a number between those of the ends
      obtain ⟨y, hyp, hyr⟩ : ∃ y : BinaryFloat, y.precision = z.precision ∧
          y.rank = z.rank + d := by
        rcases le_total 0 d with up | down
        · have rest : 0 ≤ n * d := by positivity
          exact exists_rank_between hp.symm (by linarith) (by linarith)
        · have rest : n * d ≤ 0 := mul_nonpos_of_nonneg_of_nonpos (by positivity) down
          rw [← hp]
          exact exists_rank_between hp (by linarith) (by linarith)
      exact ⟨y, (h z y).mpr ⟨hyp, hyr⟩, (ih y w).mpr ⟨hp.trans hyp.symm, by linarith⟩⟩

private theorem walk_eq_error (only : ∀ z cause, step z = .error cause → cause = fault)
    {cause : FloatFault} (failed : walk step n z = .error cause) : cause = fault := by
  induction n generalizing z with
  | zero => cases failed
  | succ n ih =>
    rw [walk_add_one, bind_eq_error_iff] at failed
    rcases failed with first | ⟨y, -, rest⟩
    · exact only z cause first
    · exact ih rest

private theorem MovesBy.walk_eq_error_of_out (h : MovesBy step d)
    (only : ∀ z cause, step z = .error cause → cause = fault)
    (out : ¬ ExponentInRange ((z.rank + n * d) / z.precision.minSig)) :
    BinaryFloat.walk step n z = .error fault := by
  cases walked : BinaryFloat.walk step n z with
  | error cause => rw [walk_eq_error only walked]
  | ok w =>
    obtain ⟨hp, hr⟩ := (h.walk n z w).mp walked
    rw [← hp, ← hr, w.rank_ediv_minSig] at out
    exact absurd w.exponent_mem out

private theorem walk_succ_eq_ok_iff :
    walk succ n z = .ok w ↔ w.precision = z.precision ∧ w.rank = z.rank + n := by
  simpa using succ_movesBy.walk n z w

private theorem walk_pred_eq_ok_iff :
    walk pred n z = .ok w ↔ w.precision = z.precision ∧ w.rank = z.rank - n := by
  simpa [sub_eq_add_neg] using pred_movesBy.walk n z w

private theorem walk_pred_eq_ok_iff_walk_succ :
    walk pred n z = .ok w ↔ walk succ n w = .ok z := by
  rw [walk_pred_eq_ok_iff, walk_succ_eq_ok_iff, eq_comm]
  apply and_congr_right
  intro
  omega

end Walk

private theorem value_lt_of_succ {z w : BinaryFloat} (h : z.succ = .ok w) : z.value < w.value := by
  rw [value_of_succ h]
  exact lt_add_of_pos_right _ z.ulp_pos

private theorem not_between_succ {z w v : BinaryFloat} (h : z.succ = .ok w)
    (hv : v.precision = z.precision) : ¬ (z.value < v.value ∧ v.value < w.value) := by
  rintro ⟨above, below⟩
  rw [value_of_succ h] at below
  rcases z.mul_zpow_le_value_or (hv ▸ v.normalized) v.exponent with le | ge
  · exact absurd above (not_lt.mpr le)
  · exact absurd below (not_lt.mpr ge)

/-- A walk of `n` steps ends `n` numbers further, and overflows exactly where that number would have
an exponent out of range; the exponent is the quotient of the number. Walks up and down undo each
other, and a step up leads to the next value. -/
theorem walk_reaches_rank (z : BinaryFloat) (n : ℕ) :
    z.rank / z.precision.minSig = z.exponent ∧
    (∀ w : BinaryFloat, w.precision = z.precision → w.rank = z.rank → w = z) ∧
    ((z.rank + n) / z.precision.minSig ≤ maxExponent →
      ∃ w, walk succ n z = .ok w ∧ w.precision = z.precision ∧ w.rank = z.rank + n) ∧
    (maxExponent < (z.rank + n) / z.precision.minSig →
      walk succ n z = .error .additionOverflow) ∧
    (minExponent ≤ (z.rank - n) / z.precision.minSig →
      ∃ w, walk pred n z = .ok w ∧ w.precision = z.precision ∧ w.rank = z.rank - n) ∧
    ((z.rank - n) / z.precision.minSig < minExponent →
      walk pred n z = .error .subtractionOverflow) ∧
    (∀ w, walk succ n z = .ok w → walk pred n w = .ok z) ∧
    (∀ w, walk pred n z = .ok w → walk succ n w = .ok z) ∧
    ∀ w, z.succ = .ok w → z.compare w = .lt ∧ z.compareExact w = .lt ∧
      ∀ v : BinaryFloat, v.precision = z.precision →
        ¬ (z.compareExact v = .lt ∧ v.compareExact w = .lt) := by
  have hm := z.precision.minSig_cast_pos
  have range := z.exponent_mem
  have up : z.exponent ≤ (z.rank + n) / z.precision.minSig := by
    rw [← rank_ediv_minSig]
    exact Int.ediv_le_ediv hm (by omega)
  have down : (z.rank - n) / z.precision.minSig ≤ z.exponent := by
    rw [← rank_ediv_minSig]
    exact Int.ediv_le_ediv hm (by omega)
  refine ⟨z.rank_ediv_minSig, fun w => eq_of_rank_eq, fun inside => ?_, fun past => ?_,
    fun inside => ?_, fun past => ?_, fun w => walk_pred_eq_ok_iff_walk_succ.mpr,
    fun w => walk_pred_eq_ok_iff_walk_succ.mp, fun w next => ?_⟩
  · obtain ⟨w, hp, hr⟩ := exists_rank_eq (range.1.trans up) inside
    exact ⟨w, walk_succ_eq_ok_iff.mpr ⟨hp, hr⟩, hp, hr⟩
  · apply succ_movesBy.walk_eq_error_of_out fun y cause failed => (succ_eq_error_iff.mp failed).2.2
    rw [mul_one]
    exact fun inside => absurd inside.2 (not_le.mpr past)
  · obtain ⟨w, hp, hr⟩ := exists_rank_eq inside (down.trans range.2)
    exact ⟨w, walk_pred_eq_ok_iff.mpr ⟨hp, hr⟩, hp, hr⟩
  · apply pred_movesBy.walk_eq_error_of_out fun y cause failed => (pred_eq_error_iff.mp failed).2.2
    rw [mul_neg_one, ← sub_eq_add_neg]
    exact fun inside => absurd inside.1 (not_le.mpr past)
  · have hp := (succ_eq_ok_iff.mp next).1
    have less := value_lt_of_succ next
    simp only [compareExact_eq_lt_iff]
    rw [compare_eq_compare_value hp.symm, compare_lt_iff_lt]
    exact ⟨less, less, fun v => not_between_succ next⟩

/-- With one bit every step changes the exponent, so `2 ^ 64 - 1` steps lead from the least float to
the greatest, and one more overflows. -/
theorem walk_reaches_rank_at_ends : ∃ z w : BinaryFloat,
    z.precision = ⟨1, by decide, by decide⟩ ∧ z.exponent = minExponent ∧
      walk succ (2 ^ 64 - 1) z = .ok w ∧ w.exponent = maxExponent ∧
      walk pred (2 ^ 64 - 1) w = .ok z ∧ walk succ (2 ^ 64) z = .error .additionOverflow ∧
      walk pred 1 z = .error .subtractionOverflow := by
  let z : BinaryFloat := ⟨⟨1, by decide, by decide⟩, 1, minExponent, by decide, by decide⟩
  have bottom : z.rank = minExponent := by decide
  have width : z.precision.minSig = 1 := rfl
  obtain ⟨-, -, reached, -, -, -, back, -⟩ := walk_reaches_rank z (2 ^ 64 - 1)
  obtain ⟨-, -, -, past, -⟩ := walk_reaches_rank z (2 ^ 64)
  obtain ⟨-, -, -, -, -, below, -⟩ := walk_reaches_rank z 1
  rw [bottom, width] at reached past below
  obtain ⟨w, walked, hp, hr⟩ := reached (by norm_num [minExponent, maxExponent])
  have top : w.exponent = maxExponent := by
    rw [← w.rank_ediv_minSig, hr, hp, width]
    norm_num [minExponent, maxExponent]
  exact ⟨z, w, rfl, rfl, walked, top, back w walked,
    past (by norm_num [minExponent, maxExponent]), below (by norm_num [minExponent])⟩

end BinaryFloat

end DecimalPowers
