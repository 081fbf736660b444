import DecimalPowers.Proofs.Outcome
import DecimalPowers.Proofs.Rounding.Nearest

/-!
Rounding a ratio of natural numbers. The comparison of the remainder with the rest of the divisor
decides on which side of the midpoint the exact quotient lies, so `roundRatio` is rounding to
nearest of the rational `(u / v) * 2 ^ k`.
-/

set_option autoImplicit false
set_option relaxedAutoImplicit false

namespace DecimalPowers

private theorem roundsUp_eq_true_iff {q r v : ℕ} (h : r < v) :
    roundsUp q r v = true ↔ v < 2 * r ∨ v = 2 * r ∧ q % 2 = 1 := by
  unfold roundsUp
  rcases lt_trichotomy r (v - r) with less | same | more
  · rw [Nat.compare_eq_lt.mpr less]
    simp only [Bool.false_eq_true, false_iff]
    omega
  · rw [Nat.compare_eq_eq.mpr same]
    simp only [decide_eq_true_eq]
    omega
  · rw [Nat.compare_eq_gt.mpr more]
    simp only [true_iff]
    omega

section Quotient

variable {u v : ℕ} {k : ℤ} {p : Precision} {t : BinaryFloat}

private theorem ratio_eq_floor_add (hv : 0 < v) :
    (u : ℚ) / v = (u / v : ℕ) + ((u % v : ℕ) : ℚ) / v := by
  have hv' : (v : ℚ) ≠ 0 := by exact_mod_cast hv.ne'
  have split : (u : ℚ) = (u / v : ℕ) * v + (u % v : ℕ) := by
    exact_mod_cast (Nat.div_add_mod' u v).symm
  nth_rewrite 1 [split]
  rw [add_div, mul_div_cancel_right₀ _ hv']

theorem roundsUp_quotient_iff (hv : 0 < v) : roundsUp (u / v) (u % v) v = true ↔
    ((u / v : ℕ) : ℚ) + 1 / 2 < (u : ℚ) / v ∨
      (u : ℚ) / v = (u / v : ℕ) + 1 / 2 ∧ u / v % 2 = 1 := by
  have hv' : (0 : ℚ) < v := by exact_mod_cast hv
  have past : v < 2 * (u % v) ↔ ((u / v : ℕ) : ℚ) + 1 / 2 < (u : ℚ) / v := by
    rw [ratio_eq_floor_add hv, add_lt_add_iff_left, div_lt_div_iff₀ (by norm_num) hv', one_mul,
      mul_comm]
    exact_mod_cast Iff.rfl
  have tie : v = 2 * (u % v) ↔ (u : ℚ) / v = (u / v : ℕ) + 1 / 2 := by
    rw [ratio_eq_floor_add hv, add_right_inj, div_eq_div_iff hv'.ne' (by norm_num), one_mul,
      mul_comm, eq_comm]
    exact_mod_cast Iff.rfl
  rw [roundsUp_eq_true_iff (Nat.mod_lt u hv), past, tie]

private theorem ratio_mul_zpow_eq (hv : 0 < v) (ht : BinaryFloat.ofParts p (u / v) k = .ok t) :
    (u : ℚ) / v * 2 ^ k = t.value + ((u % v : ℕ) : ℚ) / v * t.ulp := by
  obtain ⟨-, hs, hx⟩ := BinaryFloat.ofParts_eq_ok_iff.mp ht
  rw [ratio_eq_floor_add hv, BinaryFloat.value, BinaryFloat.ulp, hs, hx]
  ring

private theorem truncates_ratio (hv : 0 < v) (ht : BinaryFloat.ofParts p (u / v) k = .ok t) :
    t.Truncates ((u : ℚ) / v * 2 ^ k) := by
  have hulp := t.ulp_pos
  have hv' : (0 : ℚ) < v := by exact_mod_cast hv
  have part : ((u % v : ℕ) : ℚ) / v < 1 := by
    rw [div_lt_one hv']
    exact_mod_cast Nat.mod_lt u hv
  rw [BinaryFloat.Truncates, ratio_mul_zpow_eq hv ht]
  constructor
  · have : 0 ≤ ((u % v : ℕ) : ℚ) / v * t.ulp := by positivity
    linarith
  · have := mul_lt_mul_of_pos_right part hulp
    linarith

private theorem roundsUp_ratio_iff (hv : 0 < v) (ht : BinaryFloat.ofParts p (u / v) k = .ok t) :
    roundsUp (u / v) (u % v) v = true ↔ t.RoundsUp ((u : ℚ) / v * 2 ^ k) := by
  obtain ⟨-, hs, hx⟩ := BinaryFloat.ofParts_eq_ok_iff.mp ht
  have hk := two_zpow_pos k
  have midpoint : t.value + t.ulp / 2 = (((u / v : ℕ) : ℚ) + 1 / 2) * 2 ^ k := by
    rw [BinaryFloat.value, BinaryFloat.ulp, hs, hx]
    ring
  rw [roundsUp_quotient_iff hv, BinaryFloat.RoundsUp, midpoint, mul_lt_mul_iff_left₀ hk,
    mul_left_inj' hk.ne', hs]

theorem roundRatio_eq (hv : 0 < v) (ht : BinaryFloat.ofParts p (u / v) k = .ok t) :
    roundRatio u v k p =
      (if roundsUp (u / v) (u % v) v then t.succ else .ok t).mapError .fault := by
  obtain ⟨rfl, hs, -⟩ := BinaryFloat.ofParts_eq_ok_iff.mp ht
  unfold roundRatio
  rw [if_neg hv.ne', if_neg (not_not.mpr (hs ▸ t.normalized)), ht]
  rfl

theorem roundRatio_ne_refused (hv : 0 < v) (hq : p.Normalized (u / v)) {cause : TableError} :
    roundRatio u v k p ≠ .error (.refused cause) := by
  intro refused
  rw [roundRatio, if_neg hv.ne', if_neg (not_not.mpr hq), mapError_eq_error_iff] at refused
  obtain ⟨fault, -, same⟩ := refused
  cases same

private theorem roundRatio_eq_ok_iff {z : BinaryFloat} :
    roundRatio u v k p = .ok z ↔ 0 < v ∧ ∃ t, BinaryFloat.ofParts p (u / v) k = .ok t ∧
      (if roundsUp (u / v) (u % v) v then t.succ else .ok t) = .ok z := by
  constructor
  · intro h
    unfold roundRatio at h
    split at h
    · cases h
    · next hv =>
      split at h
      · cases h
      · exact ⟨Nat.pos_of_ne_zero hv, bind_eq_ok_iff.mp (mapError_eq_ok_iff.mp h)⟩
  · rintro ⟨hv, t, ht, hz⟩
    rw [roundRatio_eq hv ht, hz]
    rfl

theorem precision_of_roundRatio {z : BinaryFloat} (h : roundRatio u v k p = .ok z) :
    z.precision = p := by
  obtain ⟨-, t, ht, hz⟩ := roundRatio_eq_ok_iff.mp h
  obtain ⟨hp, -⟩ := BinaryFloat.ofParts_eq_ok_iff.mp ht
  split at hz
  · exact (BinaryFloat.succ_eq_ok_iff.mp hz).1.trans hp
  · cases hz
    exact hp

theorem exists_roundRatio (hv : 0 < v) (hq : p.Normalized (u / v))
    (hk : minExponent ≤ k ∧ k < maxExponent) :
    ∃ z, roundRatio u v k p = .ok z ∧ z.precision = p ∧ z.RoundsTo ((u : ℚ) / v * 2 ^ k) := by
  obtain ⟨t, ht⟩ := BinaryFloat.exists_ofParts hq ⟨hk.1, hk.2.le⟩
  obtain ⟨hp, -, hx⟩ := BinaryFloat.ofParts_eq_ok_iff.mp ht
  have trunc := truncates_ratio hv ht
  rw [roundRatio_eq hv ht]
  split
  · next up =>
    obtain ⟨z, hz⟩ := BinaryFloat.exists_succ (hx ▸ hk.2)
    refine ⟨z, by rw [hz]; rfl, (BinaryFloat.succ_eq_ok_iff.mp hz).1.trans hp, ?_⟩
    exact .up trunc ((roundsUp_ratio_iff hv ht).mp up) hz
  · next down =>
    exact ⟨t, rfl, hp, .down trunc fun up => down ((roundsUp_ratio_iff hv ht).mpr up)⟩

end Quotient

end DecimalPowers
