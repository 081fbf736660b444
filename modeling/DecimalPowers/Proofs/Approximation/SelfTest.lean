import DecimalPowers.Proofs.Approximation.CorrectRounding
import DecimalPowers.Proofs.Rounding.Midpoint
import DecimalPowers.Proofs.UlpError.Measure

/-!
The self-test of an approximation. `verify` refuses a float at half a unit or more, and a rounded
float is never more than half a unit off; so `approximateChecked` fails exactly at the midpoints
inside a binade, with an error of exactly one half.
-/

set_option autoImplicit false
set_option relaxedAutoImplicit false

namespace DecimalPowers

private theorem not_isInnerMidpoint_of_bits_eq_one {p : Precision} (hp : p.bits = 1) (V : ℚ) :
    ¬ IsInnerMidpoint p V := by
  rintro ⟨m, j, -, above, below, -⟩
  rw [hp] at above below
  omega

theorem verify_outcome (f : ℕ) (e : ℤ) (z : BinaryFloat) :
    (verify f e z).outcome =
      if (UlpError.measure f e z).isBelowHalf then .ok (UlpError.measure f e z)
      else .error (.refused (.inaccurate e z (UlpError.measure f e z))) := by
  unfold verify
  split
  · next below => rw [if_pos below]; rfl
  · next off => rw [if_neg off]; rfl

theorem approximateChecked_outcome {f e : ℤ} {p : Precision} {z : BinaryFloat}
    (hz : (approximate f e p).outcome = .ok z) :
    (approximateChecked f e p).outcome =
      if (UlpError.measure f.toNat e z).isBelowHalf then
        .ok ⟨z, UlpError.measure f.toNat e z⟩
      else .error (.refused (.inaccurate e z (UlpError.measure f.toNat e z))) := by
  unfold approximateChecked
  rw [Logged.outcome_bind, hz]
  show (verify f.toNat e z >>= _).outcome = _
  rw [Logged.outcome_bind, verify_outcome]
  split <;> rfl

theorem approximateChecked_eq_ok_iff {f e : ℤ} {p : Precision} {checked : Checked} :
    (approximateChecked f e p).outcome = .ok checked ↔
      (approximate f e p).outcome = .ok checked.float ∧
        (verify f.toNat e checked.float).outcome = .ok checked.error := by
  unfold approximateChecked
  simp only [Logged.outcome_bind_eq_ok_iff, Logged.outcome_pure]
  constructor
  · rintro ⟨z, hz, error, he, made⟩
    cases made
    exact ⟨hz, he⟩
  · rintro ⟨hz, he⟩
    exact ⟨_, hz, _, he, rfl⟩

/-- The error of a rounded float is at most one half, and one half exactly at inner midpoints. -/
theorem BinaryFloat.RoundsTo.value_measure {f e : ℤ} (hf : 0 < f) {z : BinaryFloat}
    (h : z.RoundsTo (decimalValue f e)) :
    (UlpError.measure f.toNat e z).value ≤ 1 / 2 ∧
      ((UlpError.measure f.toNat e z).value = 1 / 2 ↔
        IsInnerMidpoint z.precision (decimalValue f e)) := by
  have hulp := z.ulp_pos
  obtain ⟨le, eq_iff⟩ := h.abs_sub_value
  have cast : ((f.toNat : ℕ) : ℤ) = f := Int.toNat_of_nonneg hf.le
  rw [UlpError.value_measure, cast, div_le_iff₀ hulp, div_eq_iff hulp.ne', ← eq_iff,
    one_div_mul_eq_div]
  exact ⟨le, Iff.rfl⟩

private theorem BinaryFloat.RoundsTo.value_measure_of_top {f e : ℤ} (hf : 0 < f) {z : BinaryFloat}
    (h : z.RoundsTo (decimalValue f e)) {j : ℤ}
    (top : decimalValue f e = (2 ^ (z.precision.bits + 1) - 1) * 2 ^ j) :
    (UlpError.measure f.toNat e z).value = 1 / 4 := by
  have width : (2 ^ z.precision.bits : ℚ) = z.precision.maxSig + 1 := by
    exact_mod_cast z.precision.maxSig_add_one_eq_two_pow.symm
  have mid : decimalValue f e = (z.precision.maxSig + 1 / 2) * 2 ^ (j + 1) := by
    rw [top, pow_succ, width, two_zpow_succ]
    ring
  obtain ⟨w, hw, -, odd⟩ := h.tie z.precision.normalized_maxSig mid
  have hz := odd z.precision.maxSig_mod_two
  obtain ⟨hp, hs, hx⟩ := BinaryFloat.ofParts_eq_ok_iff.mp hw
  have hulp := w.ulp_pos
  have twice : z.ulp = 2 * w.ulp := by
    rcases BinaryFloat.ulp_of_succ hz with ⟨-, hu⟩ | ⟨inner, -⟩
    · exact hu
    · exact absurd (hs.trans (hp ▸ rfl)) inner
  have half : decimalValue f e = w.value + w.ulp / 2 := by
    rw [mid, BinaryFloat.value, BinaryFloat.ulp, hs, hx]
    ring
  have cast : ((f.toNat : ℕ) : ℤ) = f := Int.toNat_of_nonneg hf.le
  rw [UlpError.value_measure, cast, BinaryFloat.value_of_succ hz, half, twice, abs_sub_comm,
    abs_of_nonneg (by linarith), div_eq_iff (by positivity)]
  ring

section Outcome

variable {f e : ℤ} {p : Precision} {z : BinaryFloat}

theorem approximateChecked_of_isInnerMidpoint (h : Admissible f e)
    (hz : (approximate f e p).outcome = .ok z) (mid : IsInnerMidpoint p (decimalValue f e)) :
    (approximateChecked f e p).outcome =
        .error (.refused (.inaccurate e z (UlpError.measure f.toNat e z))) ∧
      (UlpError.measure f.toNat e z).value = 1 / 2 := by
  obtain ⟨rfl, rounds⟩ := approximate_roundsTo h hz
  have half := (rounds.value_measure h.pos).2.mpr mid
  rw [approximateChecked_outcome hz,
    if_neg fun below => ((UlpError.isBelowHalf_iff _).mp below).ne half]
  exact ⟨rfl, half⟩

theorem approximateChecked_of_not_isInnerMidpoint (h : Admissible f e)
    (hz : (approximate f e p).outcome = .ok z) (mid : ¬ IsInnerMidpoint p (decimalValue f e)) :
    (approximateChecked f e p).outcome = .ok ⟨z, UlpError.measure f.toNat e z⟩ ∧
      (UlpError.measure f.toNat e z).value < 1 / 2 := by
  obtain ⟨rfl, rounds⟩ := approximate_roundsTo h hz
  obtain ⟨le, eq_iff⟩ := rounds.value_measure h.pos
  have below := le.lt_of_ne fun half => mid (eq_iff.mp half)
  rw [approximateChecked_outcome hz, if_pos ((UlpError.isBelowHalf_iff _).mpr below)]
  exact ⟨rfl, below⟩

end Outcome

/-- The self-test rejects the rounded float exactly at the inner midpoints, where the error is one
half. -/
theorem approximateChecked_inaccurate_iff {f e : ℤ} (h : Admissible f e) (p : Precision) :
    ∃ (z : BinaryFloat) (error : UlpError), (approximate f e p).outcome = .ok z ∧
      error = UlpError.measure f.toNat e z ∧ error.value ≤ 1 / 2 ∧
      ((∃ e' z' error', (approximateChecked f e p).outcome =
          .error (.refused (.inaccurate e' z' error'))) ↔
        IsInnerMidpoint p (decimalValue f e)) ∧
      (IsInnerMidpoint p (decimalValue f e) →
        (approximateChecked f e p).outcome = .error (.refused (.inaccurate e z error)) ∧
          error.value = 1 / 2) ∧
      (¬ IsInnerMidpoint p (decimalValue f e) →
        (approximateChecked f e p).outcome = .ok ⟨z, error⟩ ∧ error.value < 1 / 2) ∧
      (∀ j : ℤ, decimalValue f e = (2 ^ (p.bits + 1) - 1) * 2 ^ j →
        (approximateChecked f e p).outcome = .ok ⟨z, error⟩ ∧ error.value = 1 / 4) ∧
      (p.bits = 1 → (approximateChecked f e p).outcome = .ok ⟨z, error⟩) := by
  obtain ⟨z, hz, rfl, rounds⟩ := exists_approximate h p
  obtain ⟨le, eq_iff⟩ := rounds.value_measure h.pos
  have rejected := approximateChecked_of_isInnerMidpoint h hz
  have accepted := approximateChecked_of_not_isInnerMidpoint h hz
  refine ⟨z, _, hz, rfl, le, ⟨?_, fun mid => ⟨_, _, _, (rejected mid).1⟩⟩, rejected, accepted,
    fun j top => ?_, fun narrow => (accepted (not_isInnerMidpoint_of_bits_eq_one narrow _)).1⟩
  · rintro ⟨e', z', error', failed⟩
    by_contra mid
    rw [(accepted mid).1] at failed
    cases failed
  · have quarter := rounds.value_measure_of_top h.pos top
    refine ⟨(accepted fun mid => ?_).1, quarter⟩
    have half := eq_iff.mpr mid
    norm_num [quarter] at half

/-- At 53 bits `10 ^ 23 = 5 ^ 23 * 2 ^ 23` is a midpoint, since `5 ^ 23` has 54 bits. -/
theorem isInnerMidpoint_ten_pow_23 {p : Precision} (width : p.bits = 53) :
    IsInnerMidpoint p (decimalValue 1 23) := by
  refine ⟨5 ^ 23, 23, by decide, ?_, ?_, ?_⟩
  · norm_num [width]
  · norm_num [width]
  · norm_num [decimalValue]

theorem approximateChecked_ten_pow_23_inaccurate :
    Admissible 1 23 ∧ ∃ z error,
      (approximateChecked 1 23 ⟨53, by decide, by decide⟩).outcome =
        .error (.refused (.inaccurate 23 z error)) ∧ error.value = 1 / 2 := by
  have admissible : Admissible 1 23 := .one (by decide)
  obtain ⟨z, error, -, -, -, -, rejected, -⟩ :=
    approximateChecked_inaccurate_iff admissible ⟨53, by decide, by decide⟩
  exact ⟨admissible, z, error, rejected (isInnerMidpoint_ten_pow_23 rfl)⟩

end DecimalPowers
