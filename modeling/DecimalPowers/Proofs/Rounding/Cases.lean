import DecimalPowers.Proofs.Rounding.Ratio

/-!
Every outcome of rounding a ratio. A ratio without a denominator, or with its integer part outside
the significand window, is refused. Any other goes down or up by the fraction above its integer
part, and the only fault is a carry past the greatest exponent. The outcome depends on the rational
alone, not on the two numbers that it is written with.
-/

set_option autoImplicit false
set_option relaxedAutoImplicit false

namespace DecimalPowers

/-- The fraction of the ratio above its integer part is less than a half, or it is a half and the
integer part is even. -/
def RoundsDown (u v : ℕ) : Prop :=
  (u : ℚ) / v - (u / v : ℕ) < 1 / 2 ∨ (u : ℚ) / v - (u / v : ℕ) = 1 / 2 ∧ Even (u / v)

private theorem roundsDown_iff {u v : ℕ} (hv : 0 < v) :
    RoundsDown u v ↔ roundsUp (u / v) (u % v) v = false := by
  rw [← Bool.not_eq_true, roundsUp_quotient_iff hv, RoundsDown, Nat.even_iff, not_or]
  constructor
  · rintro (less | ⟨half, even⟩)
    · exact ⟨by linarith, fun tie => by linarith [tie.1]⟩
    · exact ⟨by linarith, fun tie => by omega⟩
  · rintro ⟨most, tie⟩
    rcases lt_or_eq_of_le (not_lt.mp most) with less | half
    · left
      linarith
    · right
      refine ⟨by linarith, ?_⟩
      have odd : ¬ u / v % 2 = 1 := fun odd => tie ⟨half, odd⟩
      omega

private theorem not_roundsDown_iff {u v : ℕ} (hv : 0 < v) :
    ¬ RoundsDown u v ↔ roundsUp (u / v) (u % v) v = true := by
  rw [roundsDown_iff hv, Bool.not_eq_false]

section Outcome

variable {u v : ℕ} {k : ℤ} {p : Precision}

private theorem exists_roundRatio_precondition_iff (hk : ExponentInRange k) :
    (∃ cause, roundRatio u v k p = .error (.refused (.precondition cause))) ↔
      v = 0 ∨ ¬ p.Normalized (u / v) := by
  constructor
  · rintro ⟨cause, refused⟩
    by_contra inside
    obtain ⟨hv, hq⟩ := not_or.mp inside
    obtain ⟨t, ht⟩ := BinaryFloat.exists_ofParts (not_not.mp hq) hk
    rw [roundRatio_eq (Nat.pos_of_ne_zero hv) ht] at refused
    obtain ⟨fault, -, same⟩ := mapError_eq_error_iff.mp refused
    cases same
  · intro outside
    unfold roundRatio
    by_cases hv : v = 0
    · rw [if_pos hv]
      exact ⟨_, rfl⟩
    · rw [if_neg hv, if_pos (outside.resolve_left hv)]
      exact ⟨_, rfl⟩

private theorem roundRatio_of_roundsDown (hv : 0 < v) (hq : p.Normalized (u / v))
    (hk : ExponentInRange k)
    (down : RoundsDown u v) :
    ∃ z, roundRatio u v k p = .ok z ∧ z.precision = p ∧ z.significand = u / v ∧
      z.exponent = k := by
  obtain ⟨t, ht⟩ := BinaryFloat.exists_ofParts hq hk
  refine ⟨t, ?_, BinaryFloat.ofParts_eq_ok_iff.mp ht⟩
  rw [roundRatio_eq hv ht, (roundsDown_iff hv).mp down]
  rfl

private theorem roundRatio_of_inner (hv : 0 < v) (hq : p.Normalized (u / v))
    (hk : ExponentInRange k)
    (up : ¬ RoundsDown u v) (inner : u / v < p.maxSig) :
    ∃ z, roundRatio u v k p = .ok z ∧ z.precision = p ∧ z.significand = u / v + 1 ∧
      z.exponent = k := by
  obtain ⟨t, ht⟩ := BinaryFloat.exists_ofParts hq hk
  obtain ⟨rfl, hs, rfl⟩ := BinaryFloat.ofParts_eq_ok_iff.mp ht
  have next : t.precision.Normalized (u / v + 1) := by
    have := hq.1
    omega
  obtain ⟨z, hz⟩ := BinaryFloat.exists_ofParts next t.exponent_mem
  have parts := BinaryFloat.ofParts_eq_ok_iff.mp hz
  refine ⟨z, ?_, parts⟩
  have carried : t.succ = .ok z := by
    rw [BinaryFloat.succ_eq_ok_iff, hs]
    exact ⟨parts.1, .inr ⟨inner.ne, parts.2.1, parts.2.2⟩⟩
  rw [roundRatio_eq hv ht, (not_roundsDown_iff hv).mp up, if_pos rfl, carried]
  rfl

private theorem roundRatio_of_top (hv : 0 < v) (hk : minExponent ≤ k ∧ k < maxExponent)
    (up : ¬ RoundsDown u v) (top : u / v = p.maxSig) :
    ∃ z, roundRatio u v k p = .ok z ∧ z.precision = p ∧ z.significand = p.minSig ∧
      z.exponent = k + 1 := by
  have hq : p.Normalized (u / v) := top ▸ p.normalized_maxSig
  obtain ⟨t, ht⟩ := BinaryFloat.exists_ofParts hq ⟨hk.1, hk.2.le⟩
  obtain ⟨rfl, hs, rfl⟩ := BinaryFloat.ofParts_eq_ok_iff.mp ht
  obtain ⟨z, hz⟩ := BinaryFloat.exists_succ hk.2
  obtain ⟨hp, ⟨-, carry⟩ | ⟨inner, -⟩⟩ := BinaryFloat.succ_eq_ok_iff.mp hz
  · refine ⟨z, ?_, hp, carry⟩
    rw [roundRatio_eq hv ht, (not_roundsDown_iff hv).mp up, if_pos rfl, hz]
    rfl
  · exact absurd (hs.trans top) inner

private theorem roundRatio_eq_fault_iff (hk : ExponentInRange k) {fault : FloatFault} :
    roundRatio u v k p = .error (.fault fault) ↔
      0 < v ∧ u / v = p.maxSig ∧ ¬ RoundsDown u v ∧ k = maxExponent ∧
        fault = .additionOverflow := by
  by_cases outside : v = 0 ∨ ¬ p.Normalized (u / v)
  · obtain ⟨cause, refused⟩ := (exists_roundRatio_precondition_iff hk).mpr outside
    rw [refused]
    constructor
    · intro same
      cases same
    · rintro ⟨hv, top, -⟩
      rcases outside with zero | out
      · omega
      · exact absurd (top ▸ p.normalized_maxSig) out
  · obtain ⟨hv, hq⟩ := not_or.mp outside
    have positive : 0 < v := Nat.pos_of_ne_zero hv
    obtain ⟨t, ht⟩ := BinaryFloat.exists_ofParts (not_not.mp hq) hk
    obtain ⟨rfl, hs, rfl⟩ := BinaryFloat.ofParts_eq_ok_iff.mp ht
    rw [roundRatio_eq positive ht, mapError_eq_error_iff, not_roundsDown_iff positive, ← hs]
    constructor
    · rintro ⟨origin, failed, same⟩
      cases same
      split at failed
      · next up =>
        obtain ⟨top, greatest, overflow⟩ := BinaryFloat.succ_eq_error_iff.mp failed
        exact ⟨positive, top, up, greatest, overflow⟩
      · cases failed
    · rintro ⟨-, top, up, greatest, overflow⟩
      refine ⟨fault, ?_, rfl⟩
      rw [up, if_pos rfl]
      exact BinaryFloat.succ_eq_error_iff.mpr ⟨top, greatest, overflow⟩

private theorem roundRatio_eq_of_ratio_eq {u' v' : ℕ} (hv : 0 < v) (hv' : 0 < v')
    (same : (u' : ℚ) / v' = (u : ℚ) / v) : roundRatio u' v' k p = roundRatio u v k p := by
  have cross : u' * v = u * v' := by
    have nonzero : (v : ℚ) ≠ 0 := by exact_mod_cast hv.ne'
    have nonzero' : (v' : ℚ) ≠ 0 := by exact_mod_cast hv'.ne'
    exact_mod_cast (div_eq_div_iff nonzero' nonzero).mp same
  have quotient : u' / v' = u / v := by
    calc u' / v' = u' * v / (v' * v) := (Nat.mul_div_mul_right u' v' hv).symm
      _ = u * v' / (v * v') := by rw [cross, Nat.mul_comm v' v]
      _ = u / v := Nat.mul_div_mul_right u v hv'
  have side : roundsUp (u' / v') (u' % v') v' = roundsUp (u / v) (u % v) v := by
    rw [Bool.eq_iff_iff, roundsUp_quotient_iff hv', roundsUp_quotient_iff hv, same, quotient]
  unfold roundRatio
  rw [if_neg hv'.ne', if_neg hv.ne', side, quotient]

private theorem roundRatio_mul_mul {c : ℕ} (hc : 0 < c) :
    roundRatio (c * u) (c * v) k p = roundRatio u v k p := by
  rcases Nat.eq_zero_or_pos v with rfl | hv
  · rfl
  · apply roundRatio_eq_of_ratio_eq hv (Nat.mul_pos hc hv)
    have nonzero : (c : ℚ) ≠ 0 := by exact_mod_cast hc.ne'
    push_cast
    exact mul_div_mul_left _ _ nonzero

end Outcome

/-- The outcome of rounding any ratio: refused, the truncated quotient, the number above it, the
carry into the next binade, or the overflow of that carry. -/
theorem roundRatio_outcome (u v : ℕ) {k : ℤ} (hk : ExponentInRange k) (p : Precision) :
    ((∃ cause, roundRatio u v k p = .error (.refused (.precondition cause))) ↔
      v = 0 ∨ u / v < 2 ^ (p.bits - 1) ∨ 2 ^ p.bits - 1 < u / v) ∧
    (0 < v → 2 ^ (p.bits - 1) ≤ u / v → u / v ≤ 2 ^ p.bits - 1 →
      (RoundsDown u v → ∃ z, roundRatio u v k p = .ok z ∧ z.precision = p ∧
        z.significand = u / v ∧ z.exponent = k) ∧
      (¬ RoundsDown u v → u / v < 2 ^ p.bits - 1 → ∃ z, roundRatio u v k p = .ok z ∧
        z.precision = p ∧ z.significand = u / v + 1 ∧ z.exponent = k) ∧
      (¬ RoundsDown u v → u / v = 2 ^ p.bits - 1 → k < maxExponent →
        ∃ z, roundRatio u v k p = .ok z ∧ z.precision = p ∧
          z.significand = 2 ^ (p.bits - 1) ∧ z.exponent = k + 1)) ∧
    (∀ fault, roundRatio u v k p = .error (.fault fault) ↔
      0 < v ∧ u / v = 2 ^ p.bits - 1 ∧ ¬ RoundsDown u v ∧ k = maxExponent ∧
        fault = .additionOverflow) ∧
    (∀ u' v' : ℕ, 0 < v → 0 < v' → (u' : ℚ) / v' = (u : ℚ) / v →
      roundRatio u' v' k p = roundRatio u v k p) ∧
    ∀ c : ℕ, 0 < c → roundRatio (c * u) (c * v) k p = roundRatio u v k p := by
  rw [← Precision.minSig_eq, ← Precision.maxSig_eq]
  refine ⟨?_, fun hv lower upper => ⟨fun down => ?_, fun up inner => ?_, fun up top less => ?_⟩,
    fun fault => roundRatio_eq_fault_iff hk, fun u' v' => roundRatio_eq_of_ratio_eq,
    fun c => roundRatio_mul_mul⟩
  · rw [exists_roundRatio_precondition_iff hk, not_and_or, not_le, not_le]
  · exact roundRatio_of_roundsDown hv ⟨lower, upper⟩ hk down
  · exact roundRatio_of_inner hv ⟨lower, upper⟩ hk up inner
  · exact roundRatio_of_top hv ⟨hk.1, less⟩ up top

theorem roundRatio_outcome_fifteen_halves :
    ExponentInRange 12 ∧ ¬ RoundsDown 15 2 ∧
    (∃ z, roundRatio 15 2 12 ⟨3, by decide, by decide⟩ = .ok z ∧ z.significand = 4 ∧
      z.exponent = 13 ∧ roundRatio 45 6 12 ⟨3, by decide, by decide⟩ = .ok z) ∧
    roundRatio 15 2 maxExponent ⟨3, by decide, by decide⟩ =
      .error (.fault .additionOverflow) := by
  have up : ¬ RoundsDown 15 2 := (not_roundsDown_iff (by decide)).mpr (by decide)
  have range : ExponentInRange 12 := by decide
  have greatest : ExponentInRange maxExponent := by decide
  obtain ⟨-, rounded, -, -, scaled⟩ := roundRatio_outcome 15 2 range ⟨3, by decide, by decide⟩
  obtain ⟨z, hz, -, hs, hx⟩ :=
    (rounded (by decide) (by decide) (by decide)).2.2 up (by decide) (by decide)
  refine ⟨range, up, ⟨z, hz, hs, hx, (scaled 3 (by decide)).trans hz⟩, ?_⟩
  exact ((roundRatio_outcome 15 2 greatest ⟨3, by decide, by decide⟩).2.2.1 _).mpr
    ⟨by decide, by decide, up, rfl, rfl⟩

end DecimalPowers
