import DecimalPowers.Interval.Words
import Mathlib.Algebra.Order.Ring.Nat
import Mathlib.Data.Int.Notation
import Mathlib.Data.Nat.Notation
import Mathlib.Tactic.Linarith
import Mathlib.Tactic.Ring

/-!
Uniform integers. A draw returns the integer of the first word that is not passed over, so it stays
between its bounds and fails only when every word is passed over; and among `2 ^ 64` words there is
one for every integer between the bounds.
-/

set_option autoImplicit false
set_option relaxedAutoImplicit false

namespace DecimalPowers.Words

section Offset

variable {size i : ℕ}

theorem toNat_lt_count (word : UInt64) : word.toNat < count := word.toNat_lt_size

theorem exists_word {n : ℕ} (h : n < count) : ∃ word : UInt64, word.toNat = n :=
  ⟨UInt64.ofNat n, UInt64.toNat_ofNat_of_lt' h⟩

private theorem le_zone {rest : ℕ} (hs : size ≤ count) (h : rest < size) : rest ≤ zone size := by
  have := Nat.mod_le (count - size) size
  unfold zone
  omega

theorem offset?_eq_some_iff {word : UInt64} :
    offset? size word = some i ↔
      word.toNat * size % count ≤ zone size ∧ word.toNat * size / count = i := by
  simp only [offset?, Option.ite_none_right_eq_some, Option.some.injEq]

private theorem lt_of_offset? {word : UInt64} (pos : 0 < size) (h : offset? size word = some i) :
    i < size := by
  obtain ⟨-, rfl⟩ := offset?_eq_some_iff.mp h
  apply Nat.div_lt_of_lt_mul
  exact Nat.mul_lt_mul_of_pos_right (toNat_lt_count word) pos

private theorem offset?_of_mul_eq {word : UInt64} {rest : ℕ} (hs : size ≤ count)
    (less : rest < size)
    (h : word.toNat * size = i * count + rest) : offset? size word = some i := by
  have fits : rest < count := by omega
  rw [offset?_eq_some_iff, h]
  constructor
  · rw [Nat.mul_add_mod_of_lt fits]
    exact le_zone hs less
  · rw [Nat.mul_comm, Nat.mul_add_div (by decide), Nat.div_eq_of_lt fits, Nat.add_zero]

theorem exists_mul_eq_add (pos : 0 < size) (m : ℕ) :
    ∃ n rest, n * size = m + rest ∧ rest < size := by
  have split := Nat.div_add_mod' (m + (size - 1)) size
  have less := Nat.mod_lt (m + (size - 1)) pos
  exact ⟨(m + (size - 1)) / size, size - 1 - (m + (size - 1)) % size, by omega, by omega⟩

private theorem exists_offset? (h : i < size) (hs : size ≤ count) :
    ∃ word, offset? size word = some i := by
  obtain ⟨n, rest, reaches, less⟩ := exists_mul_eq_add (show 0 < size by omega) (i * count)
  have small : n * size < count * size := by
    calc n * size = i * count + rest := reaches
      _ < (i + 1) * count := by
        rw [Nat.succ_mul]
        omega
      _ ≤ size * count := Nat.mul_le_mul_right count h
      _ = count * size := Nat.mul_comm _ _
  obtain ⟨word, rfl⟩ := exists_word (Nat.lt_of_mul_lt_mul_right small)
  exact ⟨word, offset?_of_mul_eq hs less reaches⟩

end Offset

section Value

variable {low high x : ℤ} {word : UInt64}

private theorem residue_mem (low : ℤ) (word : UInt64) :
    low ≤ residue low word ∧ residue low word < low + count := by
  have nonneg := Int.emod_nonneg ((word.toNat : ℤ) - low) (show (count : ℤ) ≠ 0 by decide)
  have less := Int.emod_lt_of_pos ((word.toNat : ℤ) - low) (show (0 : ℤ) < count by decide)
  unfold residue
  omega

theorem exists_residue (lower : low ≤ x) (upper : x < low + count) :
    ∃ word, residue low word = x := by
  have nonneg := Int.emod_nonneg x (show (count : ℤ) ≠ 0 by decide)
  have less := Int.emod_lt_of_pos x (show (0 : ℤ) < count by decide)
  obtain ⟨word, hw⟩ := exists_word (n := (x % count).toNat) (by omega)
  refine ⟨word, ?_⟩
  rw [residue, hw, Int.toNat_of_nonneg nonneg, Int.emod_sub_emod,
    Int.emod_eq_of_lt (by omega) (by omega)]
  omega

theorem value?_mem (h : low ≤ high) (drawn : value? low high word = some x) :
    low ≤ x ∧ x ≤ high := by
  unfold value? at drawn
  dsimp only at drawn
  split at drawn
  · next whole =>
    cases drawn
    have := residue_mem low word
    omega
  · obtain ⟨i, hi, rfl⟩ := Option.map_eq_some_iff.mp drawn
    have := lt_of_offset? (by omega) hi
    omega

private theorem exists_value? (span : high - low < count) (lower : low ≤ x) (upper : x ≤ high) :
    ∃ word, value? low high word = some x := by
  unfold value?
  dsimp only
  split
  · next whole =>
    obtain ⟨word, hw⟩ := exists_residue lower (show x < low + count by omega)
    exact ⟨word, by rw [hw]⟩
  · have less : (x - low).toNat < (high - low + 1).toNat := by omega
    obtain ⟨word, hw⟩ := exists_offset? less (by omega)
    refine ⟨word, ?_⟩
    rw [hw, Option.map_some]
    congr 1
    omega

end Value

section Run

variable {low high x : ℤ} {words rest : List UInt64}

def PassesOver (low high : ℤ) (words : List UInt64) : Prop :=
  ∀ word ∈ words, value? low high word = none

/-- The first word that is not passed over stands for `x`, and the rest come after it. -/
def Yields (low high : ℤ) (words : List UInt64) (x : ℤ) (rest : List UInt64) : Prop :=
  ∃ passed word, words = passed ++ word :: rest ∧ PassesOver low high passed ∧
    value? low high word = some x

theorem Yields.suffix (h : Yields low high words x rest) : rest <:+ words := by
  obtain ⟨passed, word, rfl, -⟩ := h
  exact ⟨passed ++ [word], by simp⟩

theorem yields_cons_iff {word : UInt64} : Yields low high (word :: words) x rest ↔
    value? low high word = some x ∧ words = rest ∨
      value? low high word = none ∧ Yields low high words x rest := by
  constructor
  · rintro ⟨passed, other, cut, skipped, drawn⟩
    cases passed with
    | nil =>
      obtain ⟨rfl, rfl⟩ := List.cons.inj cut
      exact .inl ⟨drawn, rfl⟩
    | cons first passed =>
      obtain ⟨rfl, rfl⟩ := List.cons.inj cut
      obtain ⟨passed_over, later⟩ := List.forall_mem_cons.mp skipped
      exact .inr ⟨passed_over, passed, other, rfl, later, drawn⟩
  · rintro (⟨drawn, rfl⟩ | ⟨passed_over, passed, other, rfl, later, drawn⟩)
    · exact ⟨[], word, rfl, List.forall_mem_nil _, drawn⟩
    · exact ⟨word :: passed, other, rfl, List.forall_mem_cons.mpr ⟨passed_over, later⟩, drawn⟩

private theorem first?_eq_some_iff : first? low high words = some (x, rest) ↔
    Yields low high words x rest := by
  induction words with
  | nil => simp [first?, Yields]
  | cons word words ih =>
    rw [yields_cons_iff, ← ih, first?]
    cases value? low high word with
    | some y => simp
    | none => simp

private theorem first?_eq_none_iff : first? low high words = none ↔ PassesOver low high words := by
  unfold PassesOver
  induction words with
  | nil => simp [first?]
  | cons word words ih =>
    unfold first?
    cases value : value? low high word with
    | some y => simp [value]
    | none => simp [value, ih]

theorem uniform_eq_ok_iff : uniform low high words = .ok (x, rest) ↔
    low ≤ high ∧ Yields low high words x rest := by
  rw [← first?_eq_some_iff]
  unfold uniform
  split
  · next reversed =>
    constructor
    · intro h
      cases h
    · intro h
      exact absurd h.1 (not_le.mpr reversed)
  · next ordered =>
    cases first? low high words with
    | none => simp
    | some drawn => simpa using fun _ => not_lt.mp ordered

theorem uniform_eq_error_iff {cause : Fault} : uniform low high words = .error cause ↔
    high < low ∧ cause = .emptyBounds ∨
      low ≤ high ∧ PassesOver low high words ∧ cause = .exhausted := by
  rw [← first?_eq_none_iff]
  unfold uniform
  split
  · next reversed =>
    simp only [Except.error.injEq, reversed, true_and, not_le.mpr reversed, false_and, or_false,
      eq_comm]
  · next ordered =>
    cases first? low high words with
    | none => simp [ordered, not_lt.mp ordered, eq_comm]
    | some drawn => simp [ordered]

theorem uniform_mem (h : uniform low high words = .ok (x, rest)) : low ≤ x ∧ x ≤ high := by
  obtain ⟨ordered, -, word, -, -, drawn⟩ := uniform_eq_ok_iff.mp h
  exact value?_mem ordered drawn

theorem exists_uniform (span : high - low < count) (lower : low ≤ x) (upper : x ≤ high)
    (rest : List UInt64) : ∃ word, uniform low high (word :: rest) = .ok (x, rest) := by
  obtain ⟨word, drawn⟩ := exists_value? span lower upper
  exact ⟨word,
    uniform_eq_ok_iff.mpr ⟨lower.trans upper, [], word, rfl, List.forall_mem_nil _, drawn⟩⟩

end Run

end DecimalPowers.Words
