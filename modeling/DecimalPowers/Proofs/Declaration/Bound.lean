import DecimalPowers.Declaration
import DecimalPowers.Proofs.Outcome
import Mathlib.Algebra.Ring.Int.Defs
import Mathlib.Algebra.Ring.Nat
import Mathlib.Tactic.SplitIfs

/-!
Bounds and literals in tokens. A bound has at most two minus signs and a magnitude of at most
`2 ^ 31 - 1`. Its first sign is read apart and the second is part of the literal, which may be the
least integer of 32 bits; to negate that one overflows.
-/

set_option autoImplicit false
set_option relaxedAutoImplicit false

namespace DecimalPowers.Declaration

/-- The tokens of an integer literal with minus signs before it. -/
inductive LiteralSpelling (n : ℕ) : ℕ → List Token → Prop
  | plain (suffix : String) : LiteralSpelling n 0 [.integer n suffix]
  | minus {signs : ℕ} {tokens : List Token} (joint : Bool) : LiteralSpelling n signs tokens →
      LiteralSpelling n (signs + 1) (.punct '-' joint :: tokens)

/-- The tokens of a bound: each of at most two minus signs negates the literal. -/
def BoundSpelling (x : ℤ) (tokens : List Token) : Prop :=
  ∃ n signs, LiteralSpelling n signs tokens ∧ signs ≤ 2 ∧ n ≤ 2 ^ 31 - 1 ∧ x = (-1) ^ signs * n

variable {tokens rest : List Token} {n signs : ℕ} {x : ℤ}

section Literal

private theorem readInteger_eq_ok_iff {negative : Bool} :
    readInteger tokens = .ok ((negative, n), rest) ↔
      ∃ text, LiteralSpelling n negative.toNat text ∧ tokens = text ++ rest := by
  constructor
  · intro h
    unfold readInteger at h
    split at h
    · cases h
      exact ⟨_, .plain _, rfl⟩
    · cases h
      exact ⟨_, .minus _ (.plain _), rfl⟩
    · cases h
    · cases h
  · rintro ⟨text, spelled, rfl⟩
    cases negative with
    | false =>
      cases spelled
      rfl
    | true =>
      obtain ⟨⟩ | ⟨joint, literal⟩ := spelled
      cases literal
      rfl

private theorem readInteger_ne_negationOverflow :
    readInteger tokens ≠ .error .negationOverflow := by
  unfold readInteger
  split <;> nofun

theorem readUnsigned_eq_ok_iff {n : ℕ} : readUnsigned tokens = .ok (n, rest) ↔
    n < UInt32.size ∧ ∃ text, LiteralSpelling n 0 text ∧ tokens = text ++ rest := by
  constructor
  · intro h
    obtain ⟨⟨⟨negative, m⟩, after⟩, literal, fits⟩ := bind_eq_ok_iff.mp h
    cases negative with
    | true => cases fits
    | false =>
      dsimp only at fits
      rw [if_neg Bool.false_ne_true] at fits
      split at fits
      · cases fits
      next small =>
        cases fits
        exact ⟨not_le.mp small, readInteger_eq_ok_iff.mp literal⟩
  · rintro ⟨small, literal⟩
    apply bind_eq_ok_iff.mpr
    refine ⟨((false, n), rest), readInteger_eq_ok_iff.mpr literal, ?_⟩
    dsimp only
    rw [if_neg Bool.false_ne_true, if_neg (not_le.mpr small)]

theorem readUnsigned_ne_negationOverflow : readUnsigned tokens ≠ .error .negationOverflow := by
  refine bind_ne_error readInteger_ne_negationOverflow fun ⟨⟨negative, n⟩, after⟩ => ?_
  dsimp only
  split_ifs <;> nofun

private theorem fits_iff (few : signs ≤ 1) :
    (minBound ≤ (-1) ^ signs * n ∧ (-1) ^ signs * n ≤ maxBound) ↔
      n ≤ 2 ^ 31 - 1 ∨ signs = 1 ∧ n = 2 ^ 31 := by
  obtain rfl | rfl : signs = 0 ∨ signs = 1 := by omega
  · simp only [minBound, maxBound, pow_zero, one_mul]
    omega
  · simp only [minBound, maxBound, pow_one, neg_one_mul, true_and]
    omega

private theorem eq_minBound_iff (few : signs ≤ 1) :
    (-1) ^ signs * n = minBound ↔ signs = 1 ∧ n = 2 ^ 31 := by
  obtain rfl | rfl : signs = 0 ∨ signs = 1 := by omega
  · simp only [minBound, pow_zero, one_mul]
    omega
  · simp only [minBound, pow_one, neg_one_mul, true_and]
    omega

private theorem signed_eq (negative : Bool) (n : ℕ) :
    (if negative then -(n : ℤ) else n) = (-1) ^ negative.toNat * n := by
  cases negative <;> simp

private theorem exists_literalSpelling (h : readSigned tokens = .ok (x, rest)) :
    ∃ n signs text, LiteralSpelling n signs text ∧ signs ≤ 1 ∧
      (n ≤ 2 ^ 31 - 1 ∨ signs = 1 ∧ n = 2 ^ 31) ∧ x = (-1) ^ signs * n ∧ tokens = text ++ rest := by
  obtain ⟨⟨⟨negative, n⟩, after⟩, literal, fits⟩ := bind_eq_ok_iff.mp h
  obtain ⟨text, spelled, rfl⟩ := readInteger_eq_ok_iff.mp literal
  dsimp only at fits
  rw [signed_eq] at fits
  split at fits
  · cases fits
  split at fits
  · cases fits
  cases fits
  have few := negative.toNat_le
  exact ⟨n, _, text, spelled, few, (fits_iff few).mp ⟨by omega, by omega⟩, rfl, rfl⟩

private theorem readSigned_append {text : List Token} (spelled : LiteralSpelling n signs text)
    (few : signs ≤ 1) (size : n ≤ 2 ^ 31 - 1 ∨ signs = 1 ∧ n = 2 ^ 31) (rest : List Token) :
    readSigned (text ++ rest) = .ok ((-1) ^ signs * n, rest) := by
  obtain ⟨lower, upper⟩ := (fits_iff few).mpr size
  obtain ⟨negative, rfl⟩ : ∃ negative : Bool, negative.toNat = signs := by
    obtain rfl | rfl : signs = 0 ∨ signs = 1 := by omega
    · exact ⟨false, rfl⟩
    · exact ⟨true, rfl⟩
  apply bind_eq_ok_iff.mpr
  refine ⟨_, readInteger_eq_ok_iff.mpr ⟨text, spelled, rfl⟩, ?_⟩
  dsimp only
  rw [signed_eq, if_neg (by omega), if_neg (by omega)]

private theorem readSigned_ne_negationOverflow : readSigned tokens ≠ .error .negationOverflow := by
  refine bind_ne_error readInteger_ne_negationOverflow fun ⟨⟨negative, n⟩, after⟩ => ?_
  dsimp only
  generalize (if negative then -(n : ℤ) else n) = x
  split_ifs <;> nofun

end Literal

section Bound

private theorem readBound_of_no_minus (bare : ∀ joint after, tokens ≠ .punct '-' joint :: after) :
    readBound tokens = readSigned tokens := by
  unfold readBound
  split
  · exact absurd rfl (bare _ _)
  · rfl

private theorem readBound_minus_eq_ok_iff {joint : Bool} :
    readBound (.punct '-' joint :: tokens) = .ok (x, rest) ↔
      -x ≠ minBound ∧ readSigned tokens = .ok (-x, rest) := by
  constructor
  · intro h
    obtain ⟨⟨y, after⟩, signed, negated⟩ := bind_eq_ok_iff.mp h
    dsimp only at negated
    split at negated
    · cases negated
    next regular =>
      cases negated
      rw [neg_neg]
      exact ⟨regular, signed⟩
  · rintro ⟨regular, signed⟩
    apply bind_eq_ok_iff.mpr
    refine ⟨_, signed, ?_⟩
    dsimp only
    rw [if_neg regular, neg_neg]

private theorem neg_pow_succ_mul (signs n : ℕ) :
    -((-1 : ℤ) ^ (signs + 1) * n) = (-1) ^ signs * n := by
  rw [pow_succ, mul_neg_one, neg_mul, neg_neg]

/-- The sign that is read apart is the first of the two, the one of the literal the second. -/
theorem exists_boundSpelling (h : readBound tokens = .ok (x, rest)) :
    ∃ text, BoundSpelling x text ∧ tokens = text ++ rest := by
  by_cases minus : ∃ joint after, tokens = .punct '-' joint :: after
  · obtain ⟨joint, after, rfl⟩ := minus
    obtain ⟨regular, signed⟩ := readBound_minus_eq_ok_iff.mp h
    obtain ⟨n, signs, text, spelled, few, size, value, rfl⟩ := exists_literalSpelling signed
    rw [value, Ne, eq_minBound_iff few] at regular
    rw [← neg_pow_succ_mul, neg_inj] at value
    have small := size.resolve_right regular
    exact ⟨_, ⟨n, _, .minus joint spelled, by omega, small, value⟩, rfl⟩
  · have bare : ∀ joint after, tokens ≠ .punct '-' joint :: after := by
      intro joint after same
      exact minus ⟨joint, after, same⟩
    rw [readBound_of_no_minus bare] at h
    obtain ⟨n, signs, text, spelled, few, size, value, rfl⟩ := exists_literalSpelling h
    cases spelled with
    | plain suffix => exact ⟨_, ⟨n, 0, .plain suffix, by omega, by omega, value⟩, rfl⟩
    | minus joint literal => exact absurd rfl (bare joint _)

theorem readBound_append {text : List Token} (spelled : BoundSpelling x text)
    (rest : List Token) : readBound (text ++ rest) = .ok (x, rest) := by
  obtain ⟨n, signs, spelled, few, small, rfl⟩ := spelled
  cases spelled with
  | plain suffix => exact readSigned_append (.plain suffix) (by omega) (.inl small) rest
  | @minus signs text joint spelled =>
    apply readBound_minus_eq_ok_iff.mpr
    rw [neg_pow_succ_mul, Ne, eq_minBound_iff (by omega)]
    exact ⟨by omega, readSigned_append spelled (by omega) (.inl small) rest⟩

theorem readBound_eq_overflow_iff : readBound tokens = .error .negationOverflow ↔
    ∃ text rest, LiteralSpelling (2 ^ 31) 2 text ∧ tokens = text ++ rest := by
  constructor
  · intro h
    unfold readBound at h
    split at h
    · rcases bind_eq_error_iff.mp h with failed | ⟨⟨y, after⟩, signed, negated⟩
      · exact absurd failed readSigned_ne_negationOverflow
      · obtain ⟨n, signs, text, spelled, few, -, rfl, rfl⟩ := exists_literalSpelling signed
        dsimp only at negated
        split at negated
        · next least =>
          obtain ⟨rfl, rfl⟩ := (eq_minBound_iff few).mp least
          exact ⟨_, after, .minus _ spelled, rfl⟩
        · cases negated
    · exact absurd h readSigned_ne_negationOverflow
  · rintro ⟨text, rest, spelled, rfl⟩
    obtain _ | ⟨joint, spelled⟩ := spelled
    have signed := readSigned_append spelled le_rfl (.inr ⟨rfl, rfl⟩) rest
    have least : (-1) ^ 1 * ((2 ^ 31 : ℕ) : ℤ) = minBound :=
      (eq_minBound_iff le_rfl).mpr ⟨rfl, rfl⟩
    exact bind_eq_error_iff.mpr (.inr ⟨_, signed, if_pos least⟩)

end Bound

end DecimalPowers.Declaration
