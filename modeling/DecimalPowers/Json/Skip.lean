import DecimalPowers.Json.Number

/-!
Passing over a JSON value. The brackets that are open are kept in a list, so values may be nested
to any depth.
-/

set_option autoImplicit false
set_option relaxedAutoImplicit false

namespace DecimalPowers.Json

open Text (After)

inductive Bracket where
  | list
  | object
  deriving DecidableEq

namespace Bracket

def closing : Bracket → Char
  | list => ']'
  | object => '\x7d'

def endCause : Bracket → Cause
  | list => .endInList
  | object => .endInObject

def separatorCause : Bracket → Cause
  | list => .expectedCommaOrBracket
  | object => .expectedCommaOrBrace

end Bracket

def skipHead (s : List Char) : Except Error (Option Bracket × After s) :=
  match s with
  | [] => .error (.within .endInValue [])
  | 'n' :: r => do
    let t ← scanWord ['u', 'l', 'l'] r
    .ok (none, t.shorter)
  | 't' :: r => do
    let t ← scanWord ['r', 'u', 'e'] r
    .ok (none, t.shorter)
  | 'f' :: r => do
    let t ← scanWord ['a', 'l', 's', 'e'] r
    .ok (none, t.shorter)
  | '"' :: r => do
    let t ← skipString r
    .ok (none, t.cons)
  | '-' :: r => do
    let t ← skipNumber r
    .ok (none, t.cons)
  | '[' :: r => .ok (some .list, .tail '[' r)
  | '\x7b' :: r => .ok (some .object, .tail '\x7b' r)
  | c :: r =>
    if isDigit c then do
      let t ← skipNumber (c :: r)
      .ok (none, t)
    else .error (.within .expectedValue (c :: r))

def skipColon (s : List Char) : Except Error (After s) :=
  match h : skipSpace s with
  | [] => .error (.within .endInObject [])
  | c :: r =>
    if c = ':' then .ok ⟨r, length_lt_of_skipSpace h⟩
    else .error (.within .expectedColon (c :: r))

def skipKey (s : List Char) : Except Error (After s) :=
  match h : skipSpace s with
  | [] => .error (.within .endInObject [])
  | c :: r =>
    if c = '"' then do
      let key ← skipString r
      let colon ← skipColon key.1
      .ok (After.trans ⟨r, length_lt_of_skipSpace h⟩ (key.trans colon))
    else .error (.within .keyNotString (c :: r))

inductive Stage where
  | value
  | opened (bracket : Bracket)
  | after

namespace Stage

/-- Orders the stages at one place of the text. -/
def rank : Stage → Nat
  | value => 0
  | opened _ => 1
  | after => 0

end Stage

/-- Passes over the rest of a value inside the given open brackets. -/
def skipNested (stage : Stage) (outer : List Bracket) (s : List Char) :
    Except Error (List Char) :=
  have _hs := length_skipSpace_le s
  match stage with
  | .value =>
    match skipHead (skipSpace s) with
    | .error cause => .error cause
    | .ok (none, ⟨r, _⟩) => skipNested .after outer r
    | .ok (some bracket, ⟨r, _⟩) => skipNested (.opened bracket) outer r
  | .opened bracket =>
    match hr : skipSpace s with
    | [] => .error (.within bracket.endCause [])
    | c :: r =>
      have _hc := length_lt_of_skipSpace hr
      if c = bracket.closing then skipNested .after outer r
      else if bracket = .object then
        match skipKey s with
        | .error cause => .error cause
        | .ok ⟨k, _⟩ => skipNested .value (bracket :: outer) k
      else skipNested .value (bracket :: outer) s
  | .after =>
    match outer with
    | [] => .ok s
    | bracket :: enclosing =>
      match hr : skipSpace s with
      | [] => .error (.within bracket.endCause [])
      | c :: r =>
        have _hc := length_lt_of_skipSpace hr
        if c = ',' then
          if bracket = .object then
            match skipKey r with
            | .error cause => .error cause
            | .ok ⟨k, _⟩ => skipNested .value outer k
          else skipNested .value outer r
        else if c = bracket.closing then skipNested .after enclosing r
        else .error (.within bracket.separatorCause (c :: r))
termination_by (s.length, stage.rank)
decreasing_by
  all_goals simp only [Stage.rank, Prod.lex_def, true_and]
  all_goals omega

private theorem length_le_of_skipNested {stage : Stage} {outer : List Bracket} {s r : List Char}
    (h : skipNested stage outer s = .ok r) : r.length ≤ s.length := by
  fun_induction skipNested stage outer s <;> grind

def skipValue (s : List Char) : Except Error (List Char) := skipNested .value [] s

theorem length_le_of_skipValue {s r : List Char} (h : skipValue s = .ok r) :
    r.length ≤ s.length :=
  length_le_of_skipNested h

end DecimalPowers.Json
