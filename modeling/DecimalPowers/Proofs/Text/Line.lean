import DecimalPowers.Proofs.Text.Numeral
import Mathlib.Data.List.Basic

/-!
Reading lines back. A line is a value between two fixed texts; a block of lines of one kind is read
up to the first line of another kind.
-/

set_option autoImplicit false
set_option relaxedAutoImplicit false

namespace DecimalPowers.Text

variable {α : Type}

def skipText (text : String) (s : List Char) : Option (List Char) := text.toList.isPrefixOf? s

def readBetween (before after : String) (read : List Char → Option (α × List Char))
    (s : List Char) : Option (α × List Char) := do
  let inner ← skipText before s
  let (a, rest) ← read inner
  let rest ← skipText after rest
  some (a, rest)

/-- Reads a number between two fixed texts where the first of them stands, and has a default
elsewhere. -/
def readOptional (before after : String) (absent : ℕ) (s : List Char) : Option (ℕ × List Char) :=
  if (skipText before s).isSome then readBetween before after (readNatural 10) s
  else some (absent, s)

def readAll (read : List Char → Option (α × List Char)) (s : List Char) : List α × List Char :=
  match read s with
  | some (a, rest) =>
    if rest.length < s.length then
      let more := readAll read rest
      (a :: more.1, more.2)
    else ([], s)
  | none => ([], s)
termination_by s.length

@[simp] theorem skipText_append (text : String) (rest : List Char) :
    skipText text (text.toList ++ rest) = some rest :=
  List.isPrefixOf?_eq_some_iff_append_eq.mpr rfl

abbrev Separates (after : String) : Prop := after.toList ≠ [] ∧ EndsNumeral after.toList

theorem Separates.endsNumeral {after : String} (h : Separates after) (rest : List Char) :
    EndsNumeral (after.toList ++ rest) :=
  h.2.append h.1 rest

section Between

variable {before after : String}

private theorem readBetween_append {read : List Char → Option (α × List Char)} {text : List Char}
    {a : α} {rest : List Char}
    (h : read (text ++ (after.toList ++ rest)) = some (a, after.toList ++ rest)) :
    readBetween before after read (before.toList ++ (text ++ (after.toList ++ rest))) =
      some (a, rest) := by
  simp only [readBetween, skipText_append, h, Option.bind_eq_bind, Option.bind_some]

variable (separates : Separates after)
include separates

theorem readBetween_decimal (n : ℕ) (rest : List Char) :
    readBetween before after (readNatural 10)
      (before.toList ++ ((decimal n).toList ++ (after.toList ++ rest))) = some (n, rest) :=
  readBetween_append (readNatural_decimal n (separates.endsNumeral rest))

theorem readBetween_hex (n : ℕ) (rest : List Char) :
    readBetween before after (readNatural 16)
      (before.toList ++ ((hex n).toList ++ (after.toList ++ rest))) = some (n, rest) :=
  readBetween_append (readNatural_hex n (separates.endsNumeral rest))

theorem readBetween_signed (x : ℤ) (rest : List Char) :
    readBetween before after readInteger
      (before.toList ++ ((signed x).toList ++ (after.toList ++ rest))) = some (x, rest) :=
  readBetween_append (readInteger_signed x (separates.endsNumeral rest))

theorem readOptional_append {rest : List Char} (other : skipText before rest = none)
    (n absent : ℕ) :
    readOptional before after absent
      ((String.join (if n = absent then [] else [before ++ decimal n ++ after])).toList ++ rest) =
      some (n, rest) := by
  unfold readOptional
  split
  · next h =>
    subst h
    simp only [String.join_nil, String.toList_empty, List.nil_append, other]
    rfl
  · simp only [String.join_cons, String.join_nil, String.append_empty, String.toList_append,
      List.append_assoc, skipText_append, readBetween_decimal separates]
    rfl

end Between

theorem readAll_append {read : List Char → Option (α × List Char)} {write : α → String}
    (each : ∀ a rest, read ((write a).toList ++ rest) = some (a, rest))
    (nonempty : ∀ a, (write a).toList ≠ []) (items : List α) {rest : List Char}
    (stops : read rest = none) :
    readAll read ((String.join (items.map write)).toList ++ rest) = (items, rest) := by
  induction items with
  | nil =>
    rw [readAll]
    simp [stops]
  | cons a items ih =>
    have shorter := List.length_pos_iff.mpr (nonempty a)
    rw [List.map_cons, String.join_cons, String.toList_append, List.append_assoc, readAll, each]
    simp only [ih, List.length_append]
    exact if_pos (by omega)

end DecimalPowers.Text
