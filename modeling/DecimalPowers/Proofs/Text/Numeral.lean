import DecimalPowers.Text.Numeral
import Mathlib.Data.Nat.Notation
import Mathlib.Tactic.IntervalCases

/-!
Reading numerals back. A numeral of any base up to 16 is read from the start of a text, and what
follows it is left, whatever it is, as long as it does not begin with a digit.
-/

set_option autoImplicit false
set_option relaxedAutoImplicit false

namespace DecimalPowers.Text

/-- The number that the digits at the start of a text write, after the digits already read, and the
text after them. -/
def readDigits (base : ℕ) : (value : ℕ) → List Char → ℕ × List Char
  | value, [] => (value, [])
  | value, c :: s =>
    match hexDigit? c with
    | some d => if d < base then readDigits base (base * value + d) s else (value, c :: s)
    | none => (value, c :: s)

def readNatural (base : ℕ) (s : List Char) : Option (ℕ × List Char) :=
  let r := readDigits base 0 s
  if r.2.length < s.length then some r else none

def readInteger : List Char → Option (ℤ × List Char)
  | '-' :: s => (readNatural 10 s).map fun r => (-(r.1 : ℤ), r.2)
  | s => (readNatural 10 s).map fun r => ((r.1 : ℤ), r.2)

/-- A text in front of which a numeral ends. -/
def EndsNumeral (s : List Char) : Prop := ∀ c ∈ s.head?, hexDigit? c = none

instance (s : List Char) : Decidable (EndsNumeral s) :=
  Option.decidableForallMem s.head?

theorem EndsNumeral.append {s : List Char} (nonempty : s ≠ []) (h : EndsNumeral s)
    (rest : List Char) : EndsNumeral (s ++ rest) := by
  cases s with
  | nil => exact absurd rfl nonempty
  | cons c s => exact h

@[simp] theorem toList_hex (n : ℕ) : (hex n).toList = Nat.toDigits 16 n := String.toList_ofList

@[simp] theorem toList_decimal (n : ℕ) : (decimal n).toList = Nat.toDigits 10 n :=
  String.toList_ofList

theorem toList_signed_of_neg {x : ℤ} (h : x < 0) :
    (signed x).toList = '-' :: Nat.toDigits 10 x.natAbs := by
  rw [signed, if_pos h, String.toList_append, toList_decimal]
  rfl

theorem toList_signed_of_nonneg {x : ℤ} (h : 0 ≤ x) :
    (signed x).toList = Nat.toDigits 10 x.natAbs := by
  rw [signed, if_neg (by omega), toList_decimal]

private theorem hexDigit?_digitChar {d : ℕ} (h : d < 16) : hexDigit? d.digitChar = some d := by
  interval_cases d <;> rfl

section Base

variable {base : ℕ} (lower : 1 < base) (upper : base ≤ 16)

include upper in
private theorem readDigits_digitChar (value : ℕ) {d : ℕ} (h : d < base) (rest : List Char) :
    readDigits base value (d.digitChar :: rest) = readDigits base (base * value + d) rest := by
  rw [readDigits, hexDigit?_digitChar (h.trans_le upper)]
  exact if_pos h

include lower upper

private theorem readDigits_toDigits (n : ℕ) (rest : List Char) :
    readDigits base 0 (Nat.toDigits base n ++ rest) = readDigits base n rest := by
  induction n using Nat.strongRecOn generalizing rest with
  | ind n ih =>
    rw [Nat.toDigits_eq_if lower]
    split
    · next small =>
      rw [List.singleton_append, readDigits_digitChar upper 0 small, Nat.mul_zero,
        Nat.zero_add]
    · next large =>
      have less : n / base < n := Nat.div_lt_self (by omega) lower
      have digit : n % base < base := Nat.mod_lt n (by omega)
      rw [List.append_assoc, ih (n / base) less, List.singleton_append,
        readDigits_digitChar upper _ digit, Nat.div_add_mod]

private theorem readNatural_toDigits (n : ℕ) {rest : List Char} (stops : EndsNumeral rest) :
    readNatural base (Nat.toDigits base n ++ rest) = some (n, rest) := by
  have value : readDigits base n rest = (n, rest) := by
    cases rest with
    | nil => rfl
    | cons c rest => rw [readDigits, stops c rfl]
  have digits : 0 < (Nat.toDigits base n).length := Nat.length_toDigits_pos
  rw [readNatural, readDigits_toDigits lower upper, value]
  apply if_pos
  show rest.length < _
  rw [List.length_append]
  omega

end Base

theorem readNatural_decimal (n : ℕ) {rest : List Char} (stops : EndsNumeral rest) :
    readNatural 10 ((decimal n).toList ++ rest) = some (n, rest) := by
  rw [toList_decimal, readNatural_toDigits (by decide) (by decide) n stops]

theorem readNatural_hex (n : ℕ) {rest : List Char} (stops : EndsNumeral rest) :
    readNatural 16 ((hex n).toList ++ rest) = some (n, rest) := by
  rw [toList_hex, readNatural_toDigits (by decide) (by decide) n stops]

private theorem readInteger_toDigits (n : ℕ) {rest : List Char} (stops : EndsNumeral rest) :
    readInteger (Nat.toDigits 10 n ++ rest) = some ((n : ℤ), rest) := by
  have read := readNatural_toDigits (by decide : 1 < 10) (by decide) n stops
  unfold readInteger
  split
  · next s starts =>
    rw [starts] at read
    exact absurd read (by simp [readNatural, readDigits, hexDigit?])
  · rw [read]
    rfl

theorem readInteger_signed (x : ℤ) {rest : List Char} (stops : EndsNumeral rest) :
    readInteger ((signed x).toList ++ rest) = some (x, rest) := by
  rcases Int.lt_or_le x 0 with negative | nonnegative
  · have read := readNatural_toDigits (by decide : 1 < 10) (by decide) x.natAbs stops
    have value : -(x.natAbs : ℤ) = x := by omega
    rw [toList_signed_of_neg negative, List.cons_append, readInteger, read, Option.map_some, value]
  · have value : (x.natAbs : ℤ) = x := by omega
    rw [toList_signed_of_nonneg nonnegative, readInteger_toDigits x.natAbs stops, value]

end DecimalPowers.Text
