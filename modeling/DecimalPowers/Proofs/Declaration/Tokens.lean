import DecimalPowers.Declaration.Expansion
import DecimalPowers.Proofs.Text.Numeral

/-!
Reading tokens back. A reader takes what it reads from the start of a list of tokens and leaves the
rest; a literal is read from its text, and a list is cut at its commas.
-/

set_option autoImplicit false
set_option relaxedAutoImplicit false

namespace DecimalPowers.Token

open Declaration (signedTokens commaSeparated)

variable {α : Type}

def skipWord (name : String) : List Token → Option (List Token)
  | ident found :: rest => if found = { name } then some rest else none
  | _ => none

def skipMark (char : Char) : List Token → Option (List Token)
  | punct found _ :: rest => if found = char then some rest else none
  | _ => none

/-- The number in the text of a literal with a suffix. -/
def literal? (suffix : String) (token : Token) : Option ℕ := do
  let (n, rest) ← Text.readNatural 10 token.text.toList
  if rest = suffix.toList then some n else none

def readLiteral (suffix : String) : List Token → Option (ℕ × List Token)
  | token :: rest => (token.literal? suffix).map (·, rest)
  | [] => none

def readSignedLiteral (suffix : String) : List Token → Option (ℤ × List Token)
  | punct '-' _ :: rest => (readLiteral suffix rest).map fun r => (-(r.1 : ℤ), r.2)
  | tokens => (readLiteral suffix tokens).map fun r => ((r.1 : ℤ), r.2)

def readWhole (read : List Token → Option (α × List Token)) (tokens : List Token) : Option α := do
  let (a, rest) ← read tokens
  if rest.isEmpty then some a else none

def readGroup (delimiter : Delimiter) (read : List Token → Option α) :
    List Token → Option (α × List Token)
  | group found inner :: rest => if found = delimiter then (read inner).map (·, rest) else none
  | _ => none

def isComma : Token → Bool
  | punct ',' _ => true
  | _ => false

/-- Reads a list by what is read between its commas. -/
def readList (read : List Token → Option (α × List Token)) (tokens : List Token) :
    Option (List α) :=
  if tokens.isEmpty then some [] else (tokens.splitOnP isComma).mapM (readWhole read)

section Literal

variable {suffix : String} (rest : List Token)

@[simp] theorem skipWord_word (name : String) : skipWord name (word name :: rest) = some rest :=
  if_pos rfl

@[simp] theorem skipMark_mark (char : Char) : skipMark char (mark char :: rest) = some rest :=
  if_pos rfl

variable (ends : Text.EndsNumeral suffix.toList)
include ends

private theorem literal?_integer (n : ℕ) : (integer n suffix).literal? suffix = some n := by
  rw [literal?, text, String.toList_append, Text.readNatural_decimal n ends]
  exact if_pos rfl

theorem readLiteral_integer (n : ℕ) :
    readLiteral suffix (integer n suffix :: rest) = some (n, rest) := by
  rw [readLiteral, literal?_integer ends]
  rfl

theorem readSignedLiteral_signedTokens (x : ℤ) :
    readSignedLiteral suffix (signedTokens suffix x ++ rest) = some (x, rest) := by
  rcases Int.lt_or_le x 0 with negative | nonnegative
  · have value : -(x.natAbs : ℤ) = x := by omega
    rw [signedTokens, if_pos negative]
    show (readLiteral suffix (integer x.natAbs suffix :: rest)).map _ = _
    rw [readLiteral_integer rest ends, Option.map_some, value]
  · have value : (x.natAbs : ℤ) = x := by omega
    rw [signedTokens, if_neg (by omega)]
    show (readLiteral suffix (integer x.natAbs suffix :: rest)).map _ = _
    rw [readLiteral_integer rest ends, Option.map_some, value]

omit ends in
theorem isComma_of_mem_signedTokens {x : ℤ} {token : Token}
    (listed : token ∈ signedTokens suffix x) : isComma token = false := by
  rcases List.mem_append.mp listed with sign | literal
  · split at sign
    · rw [List.mem_singleton.mp sign]
      rfl
    · cases sign
  · rw [List.mem_singleton.mp literal]
    rfl

end Literal

section Group

variable {read : List Token → Option (α × List Token)}

theorem readWhole_of_eq {tokens : List Token} {a : α} (h : read tokens = some (a, [])) :
    readWhole read tokens = some a := by
  rw [readWhole, h]
  rfl

theorem readGroup_of_eq {readInner : List Token → Option α} {inner : List Token} {a : α}
    (h : readInner inner = some a) (delimiter : Delimiter) (rest : List Token) :
    readGroup delimiter readInner (group delimiter inner :: rest) = some (a, rest) := by
  rw [readGroup, if_pos rfl, h]
  rfl

private theorem splitOnP_commaSeparated {items : List (List Token)} (nonempty : items ≠ [])
    (plain : ∀ item ∈ items, ∀ token ∈ item, isComma token = false) :
    (commaSeparated items).splitOnP isComma = items := by
  induction items with
  | nil => exact absurd rfl nonempty
  | cons item items ih =>
    obtain ⟨first, others⟩ := List.forall_mem_cons.mp plain
    cases items with
    | nil => exact List.splitOnP_eq_singleton first
    | cons next items =>
      rw [commaSeparated, List.splitOnP_append_cons_of_forall_mem first _ rfl,
        ih (List.cons_ne_nil _ _) others]
      exact List.cons_ne_nil _ _

private theorem commaSeparated_ne_nil {item : List Token} (nonempty : item ≠ [])
    (items : List (List Token)) : commaSeparated (item :: items) ≠ [] := by
  cases items with
  | nil => exact nonempty
  | cons next items => exact List.append_ne_nil_of_left_ne_nil nonempty _

theorem readList_commaSeparated {f : α → List Token} (back : ∀ a, read (f a) = some (a, []))
    (plain : ∀ a, ∀ token ∈ f a, isComma token = false) (nonempty : ∀ a, f a ≠ []) (as : List α) :
    readList read (commaSeparated (as.map f)) = some as := by
  have each (as : List α) : (as.map f).mapM (readWhole read) = some as := by
    induction as with
    | nil => rfl
    | cons a as ih =>
      rw [List.map_cons, List.mapM_cons, readWhole_of_eq (back a), ih]
      rfl
  cases as with
  | nil => rfl
  | cons a as =>
    have visible : (commaSeparated ((a :: as).map f)).isEmpty = false :=
      List.isEmpty_eq_false_iff.mpr (commaSeparated_ne_nil (nonempty a) _)
    have items : ∀ item ∈ (a :: as).map f, ∀ token ∈ item, isComma token = false := by
      intro item listed
      obtain ⟨b, -, rfl⟩ := List.mem_map.mp listed
      exact plain b
    have nonempty_items : (a :: as).map f ≠ [] := List.cons_ne_nil _ _
    rw [readList, visible, splitOnP_commaSeparated nonempty_items items, each]
    rfl

end Group

end DecimalPowers.Token
