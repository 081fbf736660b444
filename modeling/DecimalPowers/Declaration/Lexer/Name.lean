import DecimalPowers.Declaration.Token
import DecimalPowers.Text.Identifier

/-!
Identifiers, and the suffixes of literals, which are identifiers too.
-/

set_option autoImplicit false
set_option relaxedAutoImplicit false

namespace DecimalPowers.Lexer

def isStart (c : Char) : Bool := c = '_' || Text.isIdentifierStart c

def isContinue (c : Char) : Bool := Text.isIdentifierContinue c

def plainName : List Char → Option (String × List Char)
  | [] => none
  | c :: r =>
    if isStart c then
      some (String.ofList (c :: r.takeWhile isContinue), r.dropWhile isContinue)
    else none

/-- An identifier. The words that name a place in the module tree cannot be raw. -/
def name : List Char → Option (Ident × List Char)
  | 'r' :: '#' :: r => do
    let (text, rest) ← plainName r
    if ["_", "super", "self", "Self", "crate"].contains text then none
    else some ({ name := text, raw := true }, rest)
  | s => do
    let (text, rest) ← plainName s
    some ({ name := text }, rest)

/-- The beginnings that belong to a quoted literal, so that no identifier is read from them. -/
def quoteMarks : List String :=
  ["r\"", "r#\"", "r##", "b\"", "b'", "br\"", "br#", "c\"", "cr\"", "cr#"]

def nameToken (s : List Char) : Option (Token × List Char) :=
  if quoteMarks.any (fun mark => mark.toList.isPrefixOf s) then none
  else (name s).map (fun r => (.ident r.1, r.2))

def suffix (s : List Char) : String × List Char := (plainName s).getD ("", s)

end DecimalPowers.Lexer
