import DecimalPowers.Declaration.Token
import DecimalPowers.Text.Blank

/-!
Blanks and comments between tokens. Block comments nest. A comment that documents stands for an
attribute and has the tokens of it; any other one has none.
-/

set_option autoImplicit false
set_option relaxedAutoImplicit false

namespace DecimalPowers.Lexer

/-- Whether a character separates tokens: a blank or one of the two direction marks. -/
def isSpace (c : Char) : Bool := Text.isBlank c || c = '\u200e' || c = '\u200f'

def lineRest : List Char → List Char × List Char
  | [] => ([], [])
  | '\n' :: r => ([], '\n' :: r)
  | '\r' :: '\n' :: r => ([], '\n' :: r)
  | c :: r =>
    let (line, rest) := lineRest r
    (c :: line, rest)

/-- The content of a block comment inside `depth` further ones, and the text after it. -/
def blockRest : (depth : Nat) → List Char → Option (List Char × List Char)
  | _, [] => none
  | depth, '/' :: '*' :: r => do
    let (content, rest) ← blockRest (depth + 1) r
    some ('/' :: '*' :: content, rest)
  | 0, '*' :: '/' :: r => some ([], r)
  | depth + 1, '*' :: '/' :: r => do
    let (content, rest) ← blockRest depth r
    some ('*' :: '/' :: content, rest)
  | depth, c :: r => do
    let (content, rest) ← blockRest depth r
    some (c :: content, rest)

/-- What a text begins with, as far as comments are concerned. The text after the opening of the
comment comes with it. -/
inductive Opening where
  | line (text : List Char)
  | block (text : List Char)
  | lineDoc (inner : Bool) (text : List Char)
  | blockDoc (inner : Bool) (text : List Char)
  | other

def opening : List Char → Opening
  | '/' :: '/' :: '/' :: '/' :: r => .line r
  | '/' :: '/' :: '/' :: r => .lineDoc false r
  | '/' :: '/' :: '!' :: r => .lineDoc true r
  | '/' :: '/' :: r => .line r
  | '/' :: '*' :: '*' :: '/' :: r => .block ('*' :: '/' :: r)
  | '/' :: '*' :: '*' :: '*' :: r => .block ('*' :: '*' :: r)
  | '/' :: '*' :: '*' :: r => .blockDoc false r
  | '/' :: '*' :: '!' :: r => .blockDoc true r
  | '/' :: '*' :: r => .block r
  | _ => .other

/-- Whether every carriage return of a text is followed by a newline. -/
def hasNoBareReturn : List Char → Bool
  | [] => true
  | '\r' :: '\n' :: r => hasNoBareReturn r
  | '\r' :: _ => false
  | _ :: r => hasNoBareReturn r

def docTokens (inner : Bool) (content : List Char) : List Token :=
  [.mark '#'] ++ (if inner then [.mark '!'] else [])
    ++ [.group .bracket [.word "doc", .mark '=', .literal (String.ofList content)]]

/-- Passes over one blank or comment. A documenting comment has tokens. -/
def skipOne (s : List Char) : Option (List Token × List Char) :=
  match opening s with
  | .line text => some ([], (lineRest text).2)
  | .block text => (blockRest 0 text).map (fun r => ([], r.2))
  | .lineDoc inner text =>
    let (content, rest) := lineRest text
    if hasNoBareReturn content then some (docTokens inner content, rest) else none
  | .blockDoc inner text => do
    let (content, rest) ← blockRest 0 text
    if hasNoBareReturn content then some (docTokens inner content, rest) else none
  | .other =>
    match s with
    | c :: r => if isSpace c then some ([], r) else none
    | [] => none

end DecimalPowers.Lexer
