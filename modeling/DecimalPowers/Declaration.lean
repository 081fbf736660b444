import DecimalPowers.Declaration.Token

/-!
Declarations of a table. A declaration is a visibility, a name, the two bounds of the range and
possibly a width: `pub name, -3, 3, bits = 53`. `Declaration.ofTokens` reads one from tokens. A
bound is an integer with at most two minus signs, each of which negates it.
-/

set_option autoImplicit false
set_option relaxedAutoImplicit false

namespace DecimalPowers

inductive Visibility where
  | inherited
  | everywhere
  | place (name : Ident)
  | path (isGlobal : Bool) (first : Ident) (more : List Ident)
  deriving DecidableEq

/-- A module with the table of `10 ^ e` for a range of exponents. -/
structure Declaration where
  visibility : Visibility
  name : Ident
  minExp : Int
  maxExp : Int
  bits : Option Nat
  deriving DecidableEq

namespace Visibility

def doubleColon : List Token := [.punct ':' true, .mark ':']

def pathTokens (isGlobal : Bool) (first : Ident) (more : List Ident) : List Token :=
  (if isGlobal then doubleColon else []) ++ [.ident first]
    ++ more.flatMap (fun name => doubleColon ++ [.ident name])

def tokens : Visibility → List Token
  | inherited => []
  | everywhere => [.word "pub"]
  | place name => [.word "pub", .group .parenthesis [.ident name]]
  | path isGlobal first more =>
    [.word "pub", .group .parenthesis (.word "in" :: pathTokens isGlobal first more)]

end Visibility

inductive DeclarationError where
  | notTokens
  | expectedIdentifier (atEnd : Bool)
  | foundKeyword (word : String)
  | expectedMark (mark : Char)
  | expectedInteger (atEnd : Bool)
  | expectedSegment (atEnd : Bool)
  | expectedBits
  | tooLarge
  | tooSmall
  | invalidDigit
  | unexpectedToken
  | unexpectedInParentheses
  | negationOverflow
  deriving DecidableEq

namespace DeclarationError

def expectedText (atEnd : Bool) (what : String) : String :=
  (if atEnd then "unexpected end of input, " else "") ++ "expected " ++ what

def message : DeclarationError → String
  | notTokens => "cannot parse string into token stream"
  | expectedIdentifier atEnd => expectedText atEnd "identifier"
  | foundKeyword word => "expected identifier, found keyword `" ++ word ++ "`"
  | expectedMark mark => "expected `" ++ mark.toString ++ "`"
  | expectedInteger atEnd => expectedText atEnd "integer literal"
  | expectedSegment atEnd => expectedText atEnd "path segment after `::`"
  | expectedBits => "expected `bits = N`"
  | tooLarge => "number too large to fit in target type"
  | tooSmall => "number too small to fit in target type"
  | invalidDigit => "invalid digit found in string"
  | unexpectedToken => "unexpected token"
  | unexpectedInParentheses => "unexpected token, expected `)`"
  | negationOverflow => "attempt to negate with overflow"

end DeclarationError

namespace Declaration

def readIdentifier : List Token → Except DeclarationError (Ident × List Token)
  | .ident name :: rest =>
    if name.isKeyword then .error (.foundKeyword name.text) else .ok (name, rest)
  | [] => .error (.expectedIdentifier true)
  | _ => .error (.expectedIdentifier false)

def readMark (mark : Char) : List Token → Except DeclarationError (List Token)
  | .punct char _ :: rest => if char = mark then .ok rest else .error (.expectedMark mark)
  | _ => .error (.expectedMark mark)

/-- Reads an integer literal, which may have a minus sign of its own. -/
def readInteger : List Token → Except DeclarationError ((Bool × Nat) × List Token)
  | .integer value _ :: rest => .ok ((false, value), rest)
  | .punct '-' _ :: .integer value _ :: rest => .ok ((true, value), rest)
  | [] => .error (.expectedInteger true)
  | _ => .error (.expectedInteger false)

def minBound : Int := -2147483648

def maxBound : Int := 2147483647

def readSigned (tokens : List Token) : Except DeclarationError (Int × List Token) := do
  let ((negative, value), rest) ← readInteger tokens
  let x : Int := if negative then -(value : Int) else value
  if maxBound < x then .error .tooLarge
  else if x < minBound then .error .tooSmall
  else .ok (x, rest)

/-- Reads a bound: a literal, negated if there is a minus sign before it. -/
def readBound (tokens : List Token) : Except DeclarationError (Int × List Token) :=
  match tokens with
  | .punct '-' _ :: tokens => do
    let (x, rest) ← readSigned tokens
    if x = minBound then .error .negationOverflow else .ok (-x, rest)
  | tokens => readSigned tokens

def readUnsigned (tokens : List Token) : Except DeclarationError (Nat × List Token) := do
  let ((negative, value), rest) ← readInteger tokens
  if negative then .error .invalidDigit
  else if UInt32.size ≤ value then .error .tooLarge
  else .ok (value, rest)

/-- The words that may stand in a path although they are not names. -/
def pathWords : List String := ["super", "self", "Self", "crate"]

def isSegment (name : Ident) : Bool := !name.isKeyword || pathWords.contains name.text

def doubleColon? : List Token → Option (List Token)
  | .punct ':' true :: .punct ':' _ :: rest => some rest
  | _ => none

def readSegments : List Token → Except DeclarationError (List Ident × List Token)
  | .punct ':' true :: .punct ':' _ :: rest =>
    match rest with
    | .ident name :: rest =>
      if isSegment name then do
        let (names, rest) ← readSegments rest
        .ok (name :: names, rest)
      else .error (.expectedSegment false)
    | [] => .error (.expectedSegment true)
    | _ => .error (.expectedSegment false)
  | rest => .ok ([], rest)

def readPath (tokens : List Token) : Except DeclarationError (Visibility × List Token) :=
  let (isGlobal, tokens) := match doubleColon? tokens with
    | some rest => (true, rest)
    | none => (false, tokens)
  match tokens with
  | .ident name :: rest =>
    if isSegment name then do
      let (names, rest) ← readSegments rest
      .ok (.path isGlobal name names, rest)
    else .error (.foundKeyword name.text)
  | [] => .error (.expectedIdentifier true)
  | _ => .error (.expectedIdentifier false)

def placeWords : List String := ["crate", "self", "super"]

/-- Reads what restricts a visibility from the tokens between its parentheses, if they do. The
tokens left over are those after a path. -/
def restriction? (tokens : List Token) :
    Except DeclarationError (Option (Visibility × List Token)) :=
  match tokens with
  | .ident name :: rest =>
    if placeWords.contains name.text then
      .ok (if rest.isEmpty then some (.place name, []) else none)
    else if name.text = "in" then (readPath rest).map some
    else .ok none
  | _ => .ok none

/-- Reads a visibility. The second result is the tokens that are left over between parentheses. -/
def readVisibility (tokens : List Token) :
    Except DeclarationError ((Visibility × List Token) × List Token) :=
  match tokens with
  | .ident name :: rest =>
    if name.text = "pub" then
      match rest with
      | .group .parenthesis inner :: after => do
        match ← restriction? inner with
        | some restricted => .ok (restricted, after)
        | none => .ok ((.everywhere, []), rest)
      | _ => .ok ((.everywhere, []), rest)
    else .ok ((.inherited, []), tokens)
  | _ => .ok ((.inherited, []), tokens)

def readWidth (tokens : List Token) : Except DeclarationError (Option Nat × List Token) :=
  match tokens with
  | .punct ',' _ :: [] => .ok (none, [])
  | .punct ',' _ :: rest => do
    let (key, rest) ← readIdentifier rest
    if key.text = "bits" then
      let rest ← readMark '=' rest
      let (bits, rest) ← readUnsigned rest
      .ok (some bits, rest)
    else .error .expectedBits
  | tokens => .ok (none, tokens)

/-- Reads a declaration. Tokens that are left over are refused, first those between the parentheses
of the visibility. -/
def ofTokens (tokens : List Token) : Except DeclarationError Declaration := do
  let ((visibility, extra), tokens) ← readVisibility tokens
  let (name, tokens) ← readIdentifier tokens
  let tokens ← readMark ',' tokens
  let (minExp, tokens) ← readBound tokens
  let tokens ← readMark ',' tokens
  let (maxExp, tokens) ← readBound tokens
  let (bits, tokens) ← readWidth tokens
  if !extra.isEmpty then .error .unexpectedInParentheses
  else if !tokens.isEmpty then .error .unexpectedToken
  else .ok { visibility, name, minExp, maxExp, bits }

end Declaration

end DecimalPowers
