import DecimalPowers.Approximation
import DecimalPowers.ExponentRange
import DecimalPowers.Proofs.Rounding.Ratio
import DecimalPowers.Proofs.Scaling.Normalization

/-!
Correct rounding of `f * 10 ^ e`. For admissible arguments the scaled ratio has an exponent far
inside its range, so `approximate` always has a result, and the result is `f * 10 ^ e` rounded to
nearest, a tie going to the even significand.
-/

set_option autoImplicit false
set_option relaxedAutoImplicit false

namespace DecimalPowers

/-- The arguments for which the binary exponent of `f * 10 ^ e` cannot leave its range. -/
structure Admissible (f e : ℤ) : Prop where
  pos : 0 < f
  lt : f < 2 ^ 2 ^ 62
  fits : FitsInt32 e

private theorem int_cast_lt_two_zpow {f : ℤ} {n : ℕ} (h : f < 2 ^ n) : (f : ℚ) < 2 ^ (n : ℤ) := by
  rw [zpow_natCast]
  exact_mod_cast h

theorem Admissible.of_word {m : ℕ} {e : ℤ} (pos : 0 < m) (lt : m < UInt64.size)
    (fits : FitsInt32 e) : Admissible m e where
  pos := by exact_mod_cast pos
  lt := by
    calc (m : ℤ) < 2 ^ 64 := by exact_mod_cast lt
      _ ≤ 2 ^ 2 ^ 62 := pow_le_pow_right₀ (by norm_num) (by norm_num)
  fits := fits

theorem Admissible.one {e : ℤ} (fits : FitsInt32 e) : Admissible 1 e :=
  .of_word Nat.one_pos (by decide) fits

private theorem Admissible.decimalValue_bounds {f e : ℤ} (h : Admissible f e) :
    (2 : ℚ) ^ (-(4 * 2147483648) : ℤ) ≤ decimalValue f e ∧
      decimalValue f e < 2 ^ ((2 ^ 62 : ℕ) + 4 * 2147483648 : ℤ) := by
  obtain ⟨lower, upper⟩ :=
    ten_zpow_bounds (n := 2147483648) h.fits.1 (h.fits.2.trans (by norm_num))
  have one_le : (1 : ℚ) ≤ f := by exact_mod_cast h.pos
  have lt := int_cast_lt_two_zpow h.lt
  have ten := zpow_pos (show (0 : ℚ) < 10 by norm_num) e
  constructor
  · exact lower.trans (le_mul_of_one_le_left ten.le one_le)
  · rw [zpow_add₀ (by norm_num)]
    exact mul_lt_mul lt upper ten (two_zpow_pos _).le

theorem approximate_of_pos {f e : ℤ} {p : Precision} {s : Scaled} (hf : 0 < f.toNat)
    (hs : scaleDecimal f.toNat e hf p = s) :
    approximate f e p = ⟨[.quotientNormalized e s.exponent],
      roundRatio s.ratio.numer s.ratio.denom s.exponent p⟩ := by
  have pos : 0 < f := by omega
  rw [approximate, dif_pos pos, hs]
  rfl

theorem exists_approximate_refused_iff {f e : ℤ} {p : Precision} :
    (∃ cause, (approximate f e p).outcome = .error (.refused cause)) ↔ f ≤ 0 := by
  constructor
  · rintro ⟨cause, refused⟩
    by_contra! pos
    have hf : 0 < f.toNat := by omega
    rw [approximate_of_pos hf rfl] at refused
    exact roundRatio_ne_refused (Ratio.denom_pos _) (Scaled.normalized_normalize p _) refused
  · intro nonpos
    rw [approximate, dif_neg (not_lt.mpr nonpos)]
    exact ⟨_, rfl⟩

theorem exists_approximate_of_bounds {f e : ℤ} (pos : 0 < f)
    (lower : (2 : ℚ) ^ (minExponent + 64) ≤ decimalValue f e)
    (upper : decimalValue f e < 2 ^ maxExponent) (p : Precision) :
    ∃ z, (approximate f e p).outcome = .ok z ∧ z.precision = p ∧
      z.RoundsTo (decimalValue f e) := by
  have hf : 0 < f.toNat := by omega
  obtain ⟨s, hs⟩ : ∃ s, scaleDecimal f.toNat e hf p = s := ⟨_, rfl⟩
  have value : s.value = decimalValue f e := by
    rw [← hs, scaleDecimal, Scaled.value_normalize, Scaled.value_unscaled, Ratio.value_ofDecimal,
      Int.toNat_of_nonneg pos.le]
  have window : p.Normalized s.ratio.floor := hs ▸ Scaled.normalized_normalize p _
  rw [← value] at lower upper
  obtain ⟨above, below⟩ := Scaled.exponent_bounds window lower upper
  have range : minExponent ≤ s.exponent ∧ s.exponent < maxExponent := by
    have := p.bits_le
    exact ⟨by omega, below⟩
  obtain ⟨z, hz, hp, rounds⟩ := exists_roundRatio s.ratio.denom_pos window range
  refine ⟨z, ?_, hp, value ▸ rounds⟩
  rw [approximate_of_pos hf hs]
  exact hz

theorem Admissible.value_in_range {f e : ℤ} (h : Admissible f e) :
    (2 : ℚ) ^ (minExponent + 64) ≤ decimalValue f e ∧ decimalValue f e < 2 ^ maxExponent := by
  obtain ⟨lower, upper⟩ := h.decimalValue_bounds
  have two : (1 : ℚ) ≤ 2 := by norm_num
  constructor
  · exact (zpow_le_zpow_right₀ two (by norm_num [minExponent])).trans lower
  · exact upper.trans_le (zpow_le_zpow_right₀ two (by norm_num [maxExponent]))

theorem exists_approximate {f e : ℤ} (h : Admissible f e) (p : Precision) :
    ∃ z, (approximate f e p).outcome = .ok z ∧ z.precision = p ∧
      z.RoundsTo (decimalValue f e) :=
  exists_approximate_of_bounds h.pos h.value_in_range.1 h.value_in_range.2 p

theorem precision_of_approximate {f e : ℤ} {p : Precision} {z : BinaryFloat}
    (hz : (approximate f e p).outcome = .ok z) : z.precision = p := by
  unfold approximate at hz
  split at hz
  · obtain ⟨-, -, rounded⟩ := Logged.outcome_bind_eq_ok_iff.mp hz
    exact precision_of_roundRatio rounded
  · cases hz

theorem approximate_roundsTo {f e : ℤ} (h : Admissible f e) {p : Precision} {z : BinaryFloat}
    (hz : (approximate f e p).outcome = .ok z) :
    z.precision = p ∧ z.RoundsTo (decimalValue f e) := by
  obtain ⟨w, hw, hp, rounds⟩ := exists_approximate h p
  rw [hz] at hw
  cases hw
  exact ⟨hp, rounds⟩

theorem approximate_exponent_mono {f e g d : ℤ} (hf : Admissible f e) (hg : Admissible g d)
    {p : Precision} {z w : BinaryFloat} (hz : (approximate f e p).outcome = .ok z)
    (hw : (approximate g d p).outcome = .ok w) (h : decimalValue f e ≤ decimalValue g d) :
    z.exponent ≤ w.exponent := by
  obtain ⟨hzp, hzr⟩ := approximate_roundsTo hf hz
  obtain ⟨hwp, hwr⟩ := approximate_roundsTo hg hw
  have hp : z.precision = w.precision := hzp.trans hwp.symm
  exact BinaryFloat.exponent_le_of_value_le hp (hzr.mono hwr hp h)

/-- The result of `approximate` is nearest to `f * 10 ^ e` among all points of the grid, and where
`f * 10 ^ e` is halfway between two of them it is the one with the even significand. -/
theorem approximate_nearest_even {f e : ℤ} (h : Admissible f e) (p : Precision) :
    ∃ z : BinaryFloat, (approximate f e p).outcome = .ok z ∧ z.precision = p ∧
      2 ^ (p.bits - 1) ≤ z.significand ∧ z.significand ≤ 2 ^ p.bits - 1 ∧
      (∀ (s : ℕ) (x : ℤ), p.Normalized s →
        |decimalValue f e - z.value| ≤ |decimalValue f e - s * 2 ^ x|) ∧
      ∀ (q : ℕ) (k : ℤ), p.Normalized q → decimalValue f e = (q + 1 / 2) * 2 ^ k →
        ∃ w, BinaryFloat.ofParts p q k = .ok w ∧ (q % 2 = 0 → z = w) ∧
          (q % 2 = 1 → w.succ = .ok z) ∧
          (q = p.maxSig → z.significand = p.minSig ∧ z.exponent = k + 1) := by
  obtain ⟨z, hz, rfl, rounds⟩ := exists_approximate h p
  refine ⟨z, hz, rfl, ?_, ?_, fun s x hs => rounds.nearest hs x, fun q k hq mid => ?_⟩
  · rw [← Precision.minSig_eq]
    exact z.normalized.1
  · rw [← Precision.maxSig_eq]
    exact z.normalized.2
  · obtain ⟨w, hw, even, odd⟩ := rounds.tie hq mid
    refine ⟨w, hw, even, odd, fun top => ?_⟩
    obtain ⟨hp, hs, hx⟩ := BinaryFloat.ofParts_eq_ok_iff.mp hw
    have carry := odd (top ▸ z.precision.maxSig_mod_two)
    obtain ⟨-, ⟨-, hs', hx'⟩ | ⟨inner, -⟩⟩ := BinaryFloat.succ_eq_ok_iff.mp carry
    · exact ⟨hp ▸ hs', hx ▸ hx'⟩
    · exact absurd (hs.trans (top.trans (hp ▸ rfl))) inner

theorem approximate_ten_pow_23_nearest_even :
    Admissible 1 23 ∧ ∃ z : BinaryFloat,
      (approximate 1 23 ⟨53, by decide, by decide⟩).outcome = .ok z ∧
        z.significand = 5960464477539062 ∧ z.exponent = 24 := by
  have admissible : Admissible 1 23 := .one (by decide)
  obtain ⟨z, hz, -, -, -, -, tie⟩ := approximate_nearest_even admissible ⟨53, by decide, by decide⟩
  have halfway : decimalValue 1 23 = ((5960464477539062 : ℕ) + 1 / 2) * 2 ^ (24 : ℤ) := by
    norm_num [decimalValue]
  obtain ⟨w, hw, even, -⟩ := tie 5960464477539062 24 (by decide) halfway
  obtain ⟨-, hs, hx⟩ := BinaryFloat.ofParts_eq_ok_iff.mp hw
  obtain rfl := even (by decide)
  exact ⟨admissible, z, hz, hs, hx⟩

end DecimalPowers
