import DecimalPowers.Proofs.Approximation.CorrectRounding
import DecimalPowers.Proofs.Scaling.Window

/-!
Runs of the normalization. Doubling a ratio that is below the significand window does not jump over
the window, and halving one that is above it does not fall under it. So all the steps of a run go
the same way, their number is the size of the exponent that they end with, and the rounding that
follows accepts the quotient.
-/

set_option autoImplicit false
set_option relaxedAutoImplicit false

namespace DecimalPowers

namespace Ratio

variable {p : Precision} {r : Ratio}

private theorem floor_double_le_maxSig (below : r.floor < p.minSig) :
    r.double.floor ≤ p.maxSig := by
  rw [floor_lt_iff] at below
  rw [← Nat.lt_add_one_iff, p.maxSig_add_one, floor_lt_iff]
  calc r.numer * 2 < p.minSig * r.denom * 2 := Nat.mul_lt_mul_of_pos_right below (by decide)
    _ = 2 * p.minSig * r.denom := by ring

private theorem minSig_le_floor_halve (above : p.maxSig < r.floor) : p.minSig ≤ r.halve.floor := by
  rw [lt_floor_iff, p.maxSig_add_one] at above
  rw [← Nat.not_lt, floor_lt_iff, Nat.not_lt]
  calc p.minSig * (r.denom * 2) = 2 * p.minSig * r.denom := by ring
    _ ≤ r.numer := above

end Ratio

namespace Scaled

/-- The value with its numerator doubled `a` times and its denominator `b` times. -/
def shift (s : Scaled) (a b : ℕ) : Scaled where
  ratio :=
    { numer := s.ratio.numer * 2 ^ a
      denom := s.ratio.denom * 2 ^ b
      numer_pos := Nat.mul_pos s.ratio.numer_pos (Nat.two_pow_pos a)
      denom_pos := Nat.mul_pos s.ratio.denom_pos (Nat.two_pow_pos b) }
  exponent := s.exponent + b - a

private theorem shift_zero_zero (s : Scaled) : s.shift 0 0 = s := by simp [shift]

private theorem shift_one_zero (s : Scaled) : s.shift 1 0 = ⟨s.ratio.double, s.exponent - 1⟩ := by
  simp [shift, Ratio.double]

private theorem shift_zero_one (s : Scaled) : s.shift 0 1 = ⟨s.ratio.halve, s.exponent + 1⟩ := by
  simp [shift, Ratio.halve]

private theorem shift_shift (s : Scaled) (a b c d : ℕ) :
    (s.shift a b).shift c d = s.shift (a + c) (b + d) := by
  have exponent : s.exponent + b - a + d - c = s.exponent + (b + d : ℕ) - (a + c : ℕ) := by
    push_cast
    ring
  simp only [shift, exponent, pow_add, mul_assoc]

def steps? (p : Precision) : ℕ → Scaled → Option Scaled
  | 0, s => some s
  | n + 1, s => (s.step? p).bind (steps? p n)

/-- After exactly `n` steps the run from `s` stops, and it stops at `t`. -/
def StopsAfter (p : Precision) (n : ℕ) (s t : Scaled) : Prop :=
  steps? p n s = some t ∧ t.step? p = none

section Run

variable {p : Precision} {s t : Scaled}

private theorem eq_shift_of_le_maxSig (low : s.ratio.floor ≤ p.maxSig) (step : s.step? p = some t) :
    t = s.shift 1 0 ∧ t.ratio.floor ≤ p.maxSig := by
  rcases step?_eq_some step with ⟨below, rfl⟩ | ⟨above, -⟩
  · exact ⟨s.shift_one_zero.symm, Ratio.floor_double_le_maxSig below⟩
  · omega

private theorem eq_shift_of_minSig_le (high : p.minSig ≤ s.ratio.floor)
    (step : s.step? p = some t) :
    t = s.shift 0 1 ∧ p.minSig ≤ t.ratio.floor := by
  rcases step?_eq_some step with ⟨below, -⟩ | ⟨above, rfl⟩
  · omega
  · exact ⟨s.shift_zero_one.symm, Ratio.minSig_le_floor_halve above⟩

private theorem exists_stopsAfter_shift {a b : ℕ} (Invariant : Scaled → Prop)
    (step : ∀ s t, Invariant s → s.step? p = some t → t = s.shift a b ∧ Invariant t)
    (start : Invariant s) :
    ∃ n, StopsAfter p n s (normalize p s) ∧ normalize p s = s.shift (n * a) (n * b) := by
  fun_induction normalize p s with
  | case1 s t first ih =>
    obtain ⟨moved, kept⟩ := step s t start first
    obtain ⟨n, ⟨reached, stopped⟩, shifted⟩ := ih kept
    refine ⟨n + 1, ⟨?_, stopped⟩, ?_⟩
    · rw [steps?, first, Option.bind_some, reached]
    · rw [shifted, moved, shift_shift, Nat.succ_mul, Nat.succ_mul, Nat.add_comm a, Nat.add_comm b]
  | case2 s last =>
    refine ⟨0, ⟨rfl, last⟩, ?_⟩
    rw [Nat.zero_mul, Nat.zero_mul, shift_zero_zero]

/-- A run makes all its shifts on one side, one with each step. -/
theorem exists_stopsAfter_one_way (p : Precision) (s : Scaled) : ∃ a b : ℕ, (a = 0 ∨ b = 0) ∧
    StopsAfter p (a + b) s (normalize p s) ∧ normalize p s = s.shift a b := by
  -- a quotient within the window satisfies both invariants, any other just one of them
  rcases Nat.le_total s.ratio.floor p.maxSig with low | high
  · obtain ⟨n, stops, shifted⟩ := exists_stopsAfter_shift (fun s => s.ratio.floor ≤ p.maxSig)
      (fun _ _ => eq_shift_of_le_maxSig) low
    rw [Nat.mul_one, Nat.mul_zero] at shifted
    exact ⟨n, 0, .inr rfl, stops, shifted⟩
  · obtain ⟨n, stops, shifted⟩ := exists_stopsAfter_shift (fun s => p.minSig ≤ s.ratio.floor)
      (fun _ _ => eq_shift_of_minSig_le) (p.minSig_le_maxSig.trans high)
    rw [Nat.mul_one, Nat.mul_zero] at shifted
    exact ⟨0, n, .inl rfl, (Nat.zero_add n).symm ▸ stops, shifted⟩

end Run

/-- Normalizing any ratio takes as many steps as the size of the exponent `k` that it ends with, all
of them on one side of the ratio. The quotient it ends with is a significand, `k` is the one integer
that brings the ratio into the window, and the rounding does not refuse that quotient: `approximate`
refuses nothing but a mantissa that is not positive. -/
theorem normalize_one_way (p : Precision) (r : Ratio) :
    (∃ (t : Ratio) (k : ℤ) (a b : ℕ), normalize p ⟨r, 0⟩ = ⟨t, k⟩ ∧
      StopsAfter p k.natAbs ⟨r, 0⟩ ⟨t, k⟩ ∧
      t.numer = r.numer * 2 ^ a ∧ t.denom = r.denom * 2 ^ b ∧ k = b - a ∧ (a = 0 ∨ b = 0) ∧
      2 ^ (p.bits - 1) ≤ t.floor ∧ t.floor ≤ 2 ^ p.bits - 1 ∧
      (∀ j, InWindow p r.value j ↔ j = k) ∧
      ∀ cause, roundRatio t.numer t.denom k p ≠ .error (.refused cause)) ∧
    ∀ f e, (∃ cause, (approximate f e p).outcome = .error (.refused cause)) ↔ f ≤ 0 := by
  obtain ⟨a, b, oneWay, stops, shifted⟩ := exists_stopsAfter_one_way p ⟨r, 0⟩
  have window := inWindow_normalize p ⟨r, 0⟩
  have normalized := normalized_normalize p ⟨r, 0⟩
  rw [value_unscaled] at window
  rw [shifted] at stops window normalized ⊢
  have exponent : (shift ⟨r, 0⟩ a b).exponent = b - a := by
    simp only [shift, zero_add]
  have count : (shift ⟨r, 0⟩ a b).exponent.natAbs = a + b := by omega
  refine ⟨⟨_, _, a, b, rfl, count ▸ stops, rfl, rfl, exponent, oneWay, ?_, ?_, window.iff_eq, ?_⟩,
    fun f e => exists_approximate_refused_iff⟩
  · rw [← Precision.minSig_eq]
    exact normalized.1
  · rw [← Precision.maxSig_eq]
    exact normalized.2
  · intro cause
    exact roundRatio_ne_refused (Ratio.denom_pos _) normalized

/-- At 3 bits `1 / 100` is doubled nine times, although its integer part stays zero for six. -/
example : StopsAfter ⟨3, by decide, by decide⟩ 9 ⟨⟨1, 100, by decide, by decide⟩, 0⟩
    ⟨⟨512, 100, by decide, by decide⟩, -9⟩ := ⟨by decide, by decide⟩

end Scaled

end DecimalPowers
