import DecimalPowers.Declaration.Lexer.Comment
import DecimalPowers.Declaration.Lexer.Number
import DecimalPowers.Declaration.Lexer.Quoted

/-!
Reading tokens. Blanks and comments are passed over, comments that document become the attribute
that they stand for, and brackets have to match. A text that is not a sequence of tokens has none.
-/

set_option autoImplicit false
set_option relaxedAutoImplicit false

namespace DecimalPowers.Lexer

def punctChar (s : List Char) : Option (Char × List Char) :=
  match s with
  | '/' :: '/' :: _ => none
  | '/' :: '*' :: _ => none
  | c :: r => if "~!@#$%^&*-=+|;:,<.>/?'".toList.contains c then some (c, r) else none
  | [] => none

/-- A punctuation character as a token. It is joined to one that follows at once. A single quote has
to begin a lifetime. -/
def punctToken (s : List Char) : Option (Token × List Char) := do
  let (c, r) ← punctChar s
  if c = '\'' then
    let (_, rest) ← name r
    if rest.head? = some '\'' then none
    else if rest.head? = some '#' ∧ r.take 2 ≠ ['r', '#'] then none
    else some (.punct c true, r)
  else some (.punct c (punctChar r).isSome, r)

def leaf (s : List Char) : Option (Token × List Char) :=
  (quotedToken s).orElse fun _ => (floatToken s).orElse fun _ =>
    (integerToken s).orElse fun _ => (punctToken s).orElse fun _ => nameToken s

def opens? : Char → Option Delimiter
  | '(' => some .parenthesis
  | '[' => some .bracket
  | '\x7b' => some .brace
  | _ => none

def closes? : Char → Option Delimiter
  | ')' => some .parenthesis
  | ']' => some .bracket
  | '\x7d' => some .brace
  | _ => none

/-- The tokens of a text, after the tokens already read, the latest first, and inside the groups
that are open, the innermost first. `fuel` bounds the number of steps. -/
def tokens : (fuel : Nat) → (read : List Token) → (outer : List (Delimiter × List Token)) →
    List Char → Option (List Token)
  | 0, _, _, _ => none
  | fuel + 1, read, outer, s =>
    match skipOne s with
    | some (docs, r) => tokens fuel (docs.reverse ++ read) outer r
    | none =>
      match s with
      | [] => if outer.isEmpty then some read.reverse else none
      | c :: r =>
        match opens? c, closes? c with
        | some delimiter, _ => tokens fuel [] ((delimiter, read) :: outer) r
        | none, some delimiter =>
          match outer with
          | [] => none
          | (opened, before) :: outer =>
            if opened = delimiter then
              tokens fuel (.group delimiter read.reverse :: before) outer r
            else none
        | none, none => do
          let (token, rest) ← leaf s
          tokens fuel (token :: read) outer rest

/-- The tokens of a text, if it is a sequence of tokens. A byte order mark at its start is passed
over. -/
def tokenize (text : String) : Option (List Token) :=
  match text.toList with
  | '\uFEFF' :: s => tokens (s.length + 1) [] [] s
  | s => tokens (s.length + 1) [] [] s

end DecimalPowers.Lexer
