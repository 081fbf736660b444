import DecimalPowers.Json.Record
import DecimalPowers.Proofs.Text.Numeral
import Mathlib.Data.Int.Notation
import Mathlib.Data.List.TakeWhile

/-!
Integers in JSON text. The decimal text of an integer of 64 bits, with or without a sign, is read
back as that integer, and what follows is left, unless it could belong to a number.
-/

set_option autoImplicit false
set_option relaxedAutoImplicit false

namespace DecimalPowers.Json

/-- A text in front of which a number ends. -/
def EndsNumber (s : List Char) : Prop :=
  ∀ c ∈ s.head?, isDigit c = false ∧ c ≠ '.' ∧ c ≠ 'e' ∧ c ≠ 'E'

namespace EndsNumber

variable {rest : List Char} (stops : EndsNumber rest)
include stops

private theorem takeWhile_isDigit : rest.takeWhile isDigit = [] := by
  cases rest with
  | nil => rfl
  | cons c rest => simp [(stops c rfl).1]

theorem dropWhile_isDigit : rest.dropWhile isDigit = rest := by
  cases rest with
  | nil => rfl
  | cons c rest => simp [(stops c rfl).1]

theorem head?_any : ¬ rest.head?.any isDigit = true := by
  cases rest with
  | nil => decide
  | cons c rest => simp [(stops c rfl).1]

end EndsNumber

theorem isDigit_of_mem_toDigits {n : ℕ} {c : Char} (h : c ∈ Nat.toDigits 10 n) :
    isDigit c = true := by
  have digit := Nat.isDigit_of_mem_toDigits (by decide) (by decide) h
  simpa [isDigit, Char.isDigit, Char.le_def] using digit

theorem exists_toDigits_cons (n : ℕ) :
    ∃ c s, Nat.toDigits 10 n = c :: s ∧ isDigit c = true := by
  obtain ⟨c, s, starts⟩ := List.exists_cons_of_ne_nil (Nat.toDigits_ne_nil (n := n) (b := 10))
  exact ⟨c, s, starts, isDigit_of_mem_toDigits (starts ▸ List.mem_cons_self)⟩

theorem head?_toDigits_ne_zero {n : ℕ} (positive : 0 < n) :
    (Nat.toDigits 10 n).head? ≠ some '0' := by
  induction n using Nat.strongRecOn with
  | ind n ih =>
    rw [Nat.toDigits_eq_if (by decide)]
    split
    · next small => interval_cases n <;> decide
    · obtain ⟨c, s, starts, -⟩ := exists_toDigits_cons (n / 10)
      have front := ih (n / 10) (by omega) (by omega)
      rw [starts] at front ⊢
      exact front

private theorem scanDigits_toDigits (n : ℕ) {rest : List Char} (stops : EndsNumber rest) :
    scanDigits (Nat.toDigits 10 n ++ rest) = (Nat.toDigits 10 n, rest) := by
  have digits : ∀ c ∈ Nat.toDigits 10 n, isDigit c = true := fun c => isDigit_of_mem_toDigits
  rw [scanDigits, List.takeWhile_append_of_pos digits, List.dropWhile_append_of_pos digits,
    stops.takeWhile_isDigit, stops.dropWhile_isDigit, List.append_nil]

private theorem le_ofDigitChars (k : ℕ) (cs : List Char) : k ≤ Nat.ofDigitChars 10 cs k := by
  induction cs generalizing k with
  | nil => rw [Nat.ofDigitChars_nil]
  | cons c cs ih =>
    rw [Nat.ofDigitChars_cons]
    have := ih (10 * k + (c.toNat - '0'.toNat))
    omega

private theorem keepDigits_eq {k : ℕ} {cs : List Char}
    (fits : Nat.ofDigitChars 10 cs k < UInt64.size) :
    keepDigits k cs = (Nat.ofDigitChars 10 cs k, cs.length) := by
  induction cs generalizing k with
  | nil => simp [keepDigits]
  | cons c cs ih =>
    rw [Nat.ofDigitChars_cons] at fits ⊢
    have appended : 10 * k + digitValue c < UInt64.size :=
      (le_ofDigitChars _ cs).trans_lt fits
    rw [keepDigits, if_pos appended, digitValue, ih fits]
    rfl

private theorem keepDigits_toDigits {n : ℕ} (fits : n < UInt64.size) :
    keepDigits 0 (Nat.toDigits 10 n) = (n, (Nat.toDigits 10 n).length) := by
  have value : Nat.ofDigitChars 10 (Nat.toDigits 10 n) 0 = n := Nat.ofDigitChars_ten_toDigits
  rw [keepDigits_eq (by rwa [value]), value]

private theorem scanAfterInteger_of_ends (isNegative : Bool) (n : ℕ) {rest : List Char}
    (stops : EndsNumber rest) :
    scanAfterInteger isNegative n 0 rest = .ok (makeInteger isNegative n, rest) := by
  cases rest with
  | nil => rfl
  | cons c rest =>
    obtain ⟨-, point, lower, upper⟩ := stops c rfl
    unfold scanAfterInteger
    split
    · next s starts => exact absurd (List.cons.inj starts).1 point
    · simp [lower, upper]

private theorem scanNumber_toDigits (isNegative : Bool) {n : ℕ} (fits : n < UInt64.size)
    {rest : List Char} (stops : EndsNumber rest) :
    scanNumber isNegative (Nat.toDigits 10 n ++ rest) = .ok (makeInteger isNegative n, rest) := by
  rcases Nat.eq_zero_or_pos n with rfl | positive
  · have follows := stops.head?_any
    show (if rest.head?.any isDigit = true then _ else scanAfterInteger isNegative 0 0 rest) = _
    rw [if_neg follows, scanAfterInteger_of_ends isNegative 0 stops]
  · obtain ⟨c, s, starts, digit⟩ := exists_toDigits_cons n
    have nonzero := head?_toDigits_ne_zero positive
    have scanned := scanDigits_toDigits n stops
    have kept := keepDigits_toDigits fits
    rw [starts, List.cons_append] at scanned ⊢
    rw [starts] at kept nonzero
    unfold scanNumber
    split
    · next h => cases h
    · next h => exact absurd (congrArg some (List.cons.inj h).1) nonzero
    · next d r h =>
      obtain ⟨rfl, rfl⟩ := List.cons.inj h
      simp only [if_pos digit, scanned, kept, Nat.sub_self]
      exact scanAfterInteger_of_ends isNegative n stops

/-- The integers that are numbers of 64 bits, without a sign or with a minus sign. -/
abbrev FitsNumber (x : ℤ) : Prop := -9223372036854775808 ≤ x ∧ x < 18446744073709551616

theorem FitsNumber.natCast {n : ℕ} (h : n < UInt64.size) : FitsNumber n := by
  rw [UInt64.size] at h
  omega

def Number.ofInt (x : ℤ) : Number := if x < 0 then .negative x else .natural x.toNat

private theorem readFound_of_isDigit {c : Char} (digit : isDigit c = true) (s : List Char) :
    readFound (c :: s) = (scanNumber false (c :: s)).map fun r => (.number r.1, r.2) := by
  rw [readFound, if_pos digit]
  · cases scanNumber false (c :: s) <;> rfl
  all_goals
    rintro rfl
    exact absurd digit (by decide)

private theorem makeInteger_natAbs {x : ℤ} (fits : FitsNumber x) (negative : x < 0) :
    makeInteger true x.natAbs = .negative x := by
  have limit : Nat.pow 2 63 = 9223372036854775808 := rfl
  have magnitude : ¬ (x.natAbs = 0 ∨ Nat.pow 2 63 < x.natAbs) := by omega
  have value : -(x.natAbs : ℤ) = x := by omega
  simp only [makeInteger, if_true, magnitude, if_false, value]

theorem readFound_signed {x : ℤ} (fits : FitsNumber x) {rest : List Char}
    (stops : EndsNumber rest) :
    readFound ((Text.signed x).toList ++ rest) = .ok (.number (Number.ofInt x), rest) := by
  have word : UInt64.size = 18446744073709551616 := rfl
  unfold Number.ofInt
  rcases Int.lt_or_le x 0 with negative | nonnegative
  · have scanned := scanNumber_toDigits true (n := x.natAbs) (by omega) stops
    rw [Text.toList_signed_of_neg negative, List.cons_append, readFound, scanned,
      makeInteger_natAbs fits negative, if_pos negative]
    rfl
  · obtain ⟨n, rfl⟩ : ∃ n : ℕ, x = n := ⟨x.toNat, by omega⟩
    have scanned := scanNumber_toDigits false (n := n) (by omega) stops
    obtain ⟨c, s, starts, digit⟩ := exists_toDigits_cons n
    rw [Text.toList_signed_of_nonneg nonnegative, Int.natAbs_natCast]
    rw [starts, List.cons_append] at scanned ⊢
    rw [readFound_of_isDigit digit, scanned, if_neg (by omega)]
    rfl

end DecimalPowers.Json
