import DecimalPowers.Proofs.Table.Generation
import Mathlib.Algebra.Ring.Parity

/-!
Powers of ten at the full precision. No power of five has 65 bits and no negative power of ten is
dyadic, so no power of ten is a midpoint and the self-test always passes. A table of them is refused
only for binary exponents out of range, which are those of the decimal exponents below `-9845` and
above `9883`.
-/

set_option autoImplicit false
set_option relaxedAutoImplicit false

namespace DecimalPowers

private theorem odd_part_unique {a b : ℕ} {x y : ℤ} (ha : Odd a) (hb : Odd b)
    (h : (a : ℚ) * 2 ^ x = b * 2 ^ y) : a = b := by
  wlog le : x ≤ y generalizing a b x y
  · exact (this hb ha h.symm (by omega)).symm
  obtain ⟨n, rfl⟩ := Int.le.dest le
  rw [zpow_add₀ (by norm_num), zpow_natCast, mul_left_comm, mul_comm (a : ℚ)] at h
  have shifted : a = b * 2 ^ n := by exact_mod_cast mul_left_cancel₀ (two_zpow_pos x).ne' h
  cases n with
  | zero => simpa using shifted
  | succ n =>
    rw [pow_succ, ← mul_assoc] at shifted
    exact absurd ha (Nat.not_odd_iff_even.mpr (shifted ▸ even_two.mul_left _))

private theorem five_pow_bits_ne (n : ℕ) : 5 ^ n ≤ 2 ^ 64 ∨ 2 ^ 65 ≤ 5 ^ n := by
  rcases Nat.lt_or_ge n 28 with less | ge
  · left
    exact (Nat.pow_le_pow_right (by norm_num) (Nat.le_of_lt_succ less)).trans (by norm_num)
  · right
    exact le_trans (by norm_num) (Nat.pow_le_pow_right (by norm_num) ge)

/-- No power of ten is halfway between two floats of the full precision. -/
theorem not_isInnerMidpoint_ten_zpow (e : ℤ) :
    ¬ IsInnerMidpoint Precision.full (decimalValue 1 e) := by
  rintro ⟨m, j, odd, above, below, hV⟩
  have five : Odd 5 := by decide
  -- 10 ^ e = m * 2 ^ j, with the powers of five brought to the side where they are integers
  have split : ((5 ^ e.toNat : ℕ) : ℚ) * 2 ^ e = (m * 5 ^ (-e).toNat : ℕ) * 2 ^ j := by
    have hfive : (5 : ℚ) ^ (-e).toNat ≠ 0 := by positivity
    have ten : (10 : ℚ) ^ e = 5 ^ e.toNat / 5 ^ (-e).toNat * 2 ^ e := by
      rw [← zpow_eq_div (by norm_num) e, ← mul_zpow]
      norm_num
    rw [decimalValue, Int.cast_one, one_mul, ten, div_mul_eq_mul_div, div_eq_iff hfive] at hV
    push_cast
    rw [hV]
    ring
  have equal := odd_part_unique five.pow (odd.mul five.pow) split
  simp only [Precision.full] at above below
  rcases le_total 0 e with nonneg | neg
  · rw [show (-e).toNat = 0 by omega, pow_zero, mul_one] at equal
    have := five_pow_bits_ne e.toNat
    omega
  · rw [show e.toNat = 0 by omega, pow_zero] at equal
    have five_pow_one := Nat.eq_one_of_mul_eq_one_right equal.symm
    omega

private theorem exponent_le_iff_of_bracket {e d k : ℤ} (fits : FitsInt32 e) {z : BinaryFloat}
    (hz : (approximate 1 e Precision.full).outcome = .ok z)
    (below : (10 : ℚ) ^ d < (2 ^ 65 - 1 : ℕ) * 2 ^ k)
    (above : (2 ^ 65 - 1 : ℕ) * 2 ^ k ≤ (10 : ℚ) ^ (d + 1)) : z.exponent ≤ k + 1 ↔ e ≤ d := by
  obtain ⟨hp, rounds⟩ := approximate_roundsTo (Admissible.one fits) hz
  have width : ((2 ^ 65 - 1 : ℕ) : ℚ) = 2 * Precision.full.maxSig + 1 := by
    rw [Precision.maxSig_eq]
    norm_num [Precision.full]
  have midpoint : ((z.precision.maxSig : ℚ) + 1 / 2) * 2 ^ (k + 1) = (2 ^ 65 - 1 : ℕ) * 2 ^ k := by
    rw [hp, width, two_zpow_succ]
    ring
  rw [rounds.exponent_le_iff, midpoint, decimalValue, Int.cast_one, one_mul]
  constructor
  · intro less
    by_contra more
    have := zpow_le_zpow_right₀ (show (1 : ℚ) ≤ 10 by norm_num) (show d + 1 ≤ e by omega)
    linarith
  · intro le
    exact (zpow_le_zpow_right₀ (by norm_num) le).trans_lt below

private theorem ten_zpow_lt_iff {d k : ℤ} (c : ℕ) :
    (10 : ℚ) ^ d < c * 2 ^ k ↔
      10 ^ d.toNat * 2 ^ (-k).toNat < c * 2 ^ k.toNat * 10 ^ (-d).toNat := by
  rw [zpow_eq_div (by norm_num) d, zpow_eq_div (by norm_num) k, mul_div_assoc',
    div_lt_div_iff₀ (by positivity) (by positivity)]
  exact_mod_cast Iff.rfl

private theorem fitsInt16_exponent_iff {e : ℤ} (fits : FitsInt32 e) {z : BinaryFloat}
    (hz : (approximate 1 e Precision.full).outcome = .ok z) :
    FitsInt16 z.exponent ↔ -9845 ≤ e ∧ e ≤ 9883 := by
  have high : z.exponent ≤ 32766 + 1 ↔ e ≤ 9883 :=
    exponent_le_iff_of_bracket fits hz ((ten_zpow_lt_iff _).mpr (by decide +kernel))
      (not_lt.mp (mt (ten_zpow_lt_iff _).mp (by decide +kernel)))
  have low : z.exponent ≤ -32770 + 1 ↔ e ≤ -9846 :=
    exponent_le_iff_of_bracket fits hz ((ten_zpow_lt_iff _).mpr (by decide +kernel))
      (not_lt.mp (mt (ten_zpow_lt_iff _).mp (by decide +kernel)))
  unfold FitsInt16
  omega

namespace Table

private theorem entryRefused_full_iff {e : ℤ} (fits : FitsInt32 e) {cause : Failure} :
    EntryRefused 1 Precision.full e cause ↔ ¬ (-9845 ≤ e ∧ e ≤ 9883) ∧
      ∃ z, (approximate 1 e Precision.full).outcome = .ok z ∧
        cause = .refused (.exponentOutOfRange e z.exponent) := by
  constructor
  · intro refused
    cases refused with
    | inaccurate _ mid => exact absurd mid (not_isInnerMidpoint_ten_zpow e)
    | outOfRange hz _ outside =>
      exact ⟨mt (fitsInt16_exponent_iff fits hz).mpr outside, _, hz, rfl⟩
  · rintro ⟨outside, z, hz, rfl⟩
    exact .outOfRange hz (not_isInnerMidpoint_ten_zpow e)
      (mt (fitsInt16_exponent_iff fits hz).mp outside)

private theorem exists_entryFor_full_iff {e : ℤ} (fits : FitsInt32 e) :
    (∃ entry, (entryFor 1 Precision.full e).outcome = .ok entry) ↔ -9845 ≤ e ∧ e ≤ 9883 := by
  rw [exists_entryFor_iff (Admissible.one fits)]
  constructor
  · rintro ⟨-, z, hz, inside⟩
    exact (fitsInt16_exponent_iff fits hz).mp inside
  · intro inside
    obtain ⟨z, hz, -⟩ := exists_approximate (Admissible.one fits) Precision.full
    exact ⟨not_isInnerMidpoint_ten_zpow e, z, hz, (fitsInt16_exponent_iff fits hz).mpr inside⟩

section Generate

variable {low high : ℤ}

private theorem validate_full (nonempty : low ≤ high) (hlow : FitsInt16 low)
    (hhigh : FitsInt16 high) :
    (⟨low, high, 64, 1⟩ : Parameters).validate =
      .ok ⟨Precision.full, ⟨low, high, nonempty, hlow, hhigh⟩, 1, Nat.one_pos⟩ :=
  Parameters.validate_eq_ok_iff.mpr ⟨rfl, rfl, rfl, rfl⟩

private theorem fitsInt32_of_mem (hlow : FitsInt16 low) (hhigh : FitsInt16 high) {e : ℤ}
    (lower : low ≤ e)
    (upper : e ≤ high) : FitsInt32 e := by
  have := hlow.1
  have := hhigh.2
  exact ⟨by omega, by omega⟩

theorem exists_generate_full_iff (nonempty : low ≤ high) (hlow : FitsInt16 low)
    (hhigh : FitsInt16 high) :
    (∃ t, (generate ⟨low, high, 64, 1⟩).outcome = .ok t) ↔ -9845 ≤ low ∧ high ≤ 9883 := by
  have each {e : ℤ} (lower : low ≤ e) (upper : e ≤ high) :=
    exists_entryFor_full_iff (fitsInt32_of_mem hlow hhigh lower upper)
  rw [exists_generate_iff (validate_full nonempty hlow hhigh)]
  constructor
  · intro made
    have := (each le_rfl nonempty).mp (made low le_rfl nonempty)
    have := (each nonempty le_rfl).mp (made high nonempty le_rfl)
    omega
  · rintro ⟨above, below⟩ e lower upper
    exact (each lower upper).mpr ⟨above.trans lower, upper.trans below⟩

private theorem generate_full_eq_error (nonempty : low ≤ high) (hlow : FitsInt16 low)
    (hhigh : FitsInt16 high) (outside : ¬ (-9845 ≤ low ∧ high ≤ 9883)) :
    ∃ e z, e = (if low < -9845 then low else max low 9884) ∧
      (approximate 1 e Precision.full).outcome = .ok z ∧
      (generate ⟨low, high, 64, 1⟩).outcome =
        .error (.refused (.exponentOutOfRange e z.exponent)) := by
  cases made : (generate ⟨low, high, 64, 1⟩).outcome with
  | ok t => exact absurd ((exists_generate_full_iff nonempty hlow hhigh).mp ⟨t, made⟩) outside
  | error cause =>
    obtain ⟨e, lower, upper, refused, first⟩ :=
      exists_least_refused (validate_full nonempty hlow hhigh) (by simp [UInt64.size]) made
    change low ≤ e at lower
    change e ≤ high at upper
    obtain ⟨beyond, z, hz, rfl⟩ :=
      (entryRefused_full_iff (fitsInt32_of_mem hlow hhigh lower upper)).mp refused
    have before {a : ℤ} (low_le : low ≤ a) (less : a < e) : -9845 ≤ a ∧ a ≤ 9883 := by
      have fits := fitsInt32_of_mem hlow hhigh low_le (less.le.trans upper)
      obtain ⟨w, hw, -⟩ := exists_approximate (Admissible.one fits) Precision.full
      by_contra beyond_a
      exact first a low_le less _ ((entryRefused_full_iff fits).mpr ⟨beyond_a, w, hw, rfl⟩)
    refine ⟨e, z, ?_, hz, rfl⟩
    split
    · next under =>
      by_contra differ
      have := before le_rfl (lt_of_le_of_ne lower (Ne.symm differ))
      omega
    · next inside =>
      by_contra differ
      have := before (le_max_left low 9884) (by omega)
      omega

end Generate

/-- The self-test passes every power of ten at the full precision, and a table of them is made
exactly for the ranges inside `[-9845, 9883]`; another range fails for the binary exponent of its
least exponent outside. -/
theorem generate_full_precision :
    (∀ e : ℤ, FitsInt32 e →
      ∃ checked, (approximateChecked 1 e Precision.full).outcome = .ok checked) ∧
    ∀ low high : ℤ, low ≤ high → FitsInt16 low → FitsInt16 high →
      ((∃ t, (generate ⟨low, high, 64, 1⟩).outcome = .ok t) ↔ -9845 ≤ low ∧ high ≤ 9883) ∧
      (¬ (-9845 ≤ low ∧ high ≤ 9883) →
        ∃ e z, e = (if low < -9845 then low else max low 9884) ∧
          (approximate 1 e Precision.full).outcome = .ok z ∧
          (generate ⟨low, high, 64, 1⟩).outcome =
            .error (.refused (.exponentOutOfRange e z.exponent))) := by
  constructor
  · intro e fits
    have admissible := Admissible.one fits
    obtain ⟨z, hz, -⟩ := exists_approximate admissible Precision.full
    have accepted :=
      approximateChecked_of_not_isInnerMidpoint admissible hz (not_isInnerMidpoint_ten_zpow e)
    exact ⟨_, accepted.1⟩
  · intro low high nonempty hlow hhigh
    exact ⟨exists_generate_full_iff nonempty hlow hhigh,
      generate_full_eq_error nonempty hlow hhigh⟩

theorem generate_full_precision_at_ends :
    (∃ t, (generate ⟨-9845, 9883, 64, 1⟩).outcome = .ok t) ∧
    (∃ z : BinaryFloat, (generate ⟨-9846, 9883, 64, 1⟩).outcome =
      .error (.refused (.exponentOutOfRange (-9846) z.exponent))) ∧
    (∃ z : BinaryFloat, (generate ⟨-9845, 9884, 64, 1⟩).outcome =
      .error (.refused (.exponentOutOfRange 9884 z.exponent))) ∧
    ∃ checked, (approximateChecked 1 (-2147483648) Precision.full).outcome = .ok checked := by
  obtain ⟨passes, ranges⟩ := generate_full_precision
  have widest := ranges (-9845) 9883 (by decide) (by decide) (by decide)
  have lower := ranges (-9846) 9883 (by decide) (by decide) (by decide)
  have upper := ranges (-9845) 9884 (by decide) (by decide) (by decide)
  obtain ⟨e, z, rfl, -, below⟩ := lower.2 (by decide)
  obtain ⟨d, w, rfl, -, above⟩ := upper.2 (by decide)
  exact ⟨widest.1.mpr (by decide), ⟨z, below⟩, ⟨w, above⟩, passes (-2147483648) (by decide)⟩

end Table

end DecimalPowers
