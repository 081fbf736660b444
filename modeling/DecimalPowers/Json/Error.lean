import DecimalPowers.Binary64.Shortest
import DecimalPowers.Text.Quoted

/-!
Errors of reading JSON. An error has a cause and a place, given as the number of bytes of the text
after it; in the message the place is a line and the number of bytes of that line before it.
-/

set_option autoImplicit false
set_option relaxedAutoImplicit false

namespace DecimalPowers.Json

def byteLength (s : List Char) : Nat := s.foldr (fun c n => c.utf8Size + n) 0

inductive Number where
  | natural (n : Nat)
  | negative (x : Int)
  | float (isNegative : Bool) (magnitude : Binary64)

inductive Found where
  | null
  | boolean (value : Bool)
  | number (value : Number)
  | string (text : String)
  | sequence
  | map

inductive Cause where
  | endInValue | endInObject | endInList | endInString
  | expectedValue | expectedIdent | expectedColon | expectedCommaOrBrace
  | expectedCommaOrBracket | keyNotString | trailingComma | trailingCharacters
  | invalidNumber | numberOutOfRange | controlCharacter | invalidEscape
  | loneSurrogate | unfinishedSurrogate
  | invalidType (found : Found) (expected : String)
  | invalidValue (value : Int) (expected : String)
  | missingField (name : String)
  | duplicateField (name : String)
  | invalidLength (length : Nat) (expected : String)
  | width (bits : Nat)

/-- A cause and the number of bytes after its place, if it has one. -/
structure Error where
  cause : Cause
  remaining : Option Nat

namespace Error

def before (cause : Cause) (rest : List Char) : Error := ⟨cause, some (byteLength rest)⟩

/-- The error one byte into the given rest of the text, or at its end if there is none. -/
def within (cause : Cause) (rest : List Char) : Error := ⟨cause, some (byteLength rest - 1)⟩

end Error

/-! ### Texts -/

/-- The text of a float: the shortest decimal, at a tie the even one, positional between `10 ^ -5`
and `10 ^ 16`, with a point in any case, and with an exponent of at least two digits otherwise. -/
def floatText (isNegative : Bool) (magnitude : Binary64) : String :=
  (if isNegative then "-" else "") ++
    match magnitude with
    | .infinite => "inf"
    | .finite m x =>
      let s := ShortDecimal.ofFinite .toEven m x
      let lead := s.leading
      if -5 ≤ lead ∧ lead < 16 then s.positional ++ if 0 ≤ s.exponent then ".0" else ""
      else
        let digits := s.digitText
        let exponent := (Nat.toDigits 10 lead.natAbs)
        String.ofList (digits.take 1 ++ (if digits.length = 1 then [] else '.' :: digits.drop 1)
          ++ ['e', if lead < 0 then '-' else '+']
          ++ List.replicate (2 - exponent.length) '0' ++ exponent)

namespace Found

def text : Found → String
  | null => "null"
  | boolean value => "boolean `" ++ (if value then "true" else "false") ++ "`"
  | number (.natural n) => "integer `" ++ Text.decimal n ++ "`"
  | number (.negative x) => "integer `" ++ Text.signed x ++ "`"
  | number (.float isNegative magnitude) =>
    "floating point `" ++ floatText isNegative magnitude ++ "`"
  | string s => "string " ++ Text.quoted s
  | sequence => "sequence"
  | map => "map"

end Found

namespace Cause

def text : Cause → String
  | endInValue => "EOF while parsing a value"
  | endInObject => "EOF while parsing an object"
  | endInList => "EOF while parsing a list"
  | endInString => "EOF while parsing a string"
  | expectedValue => "expected value"
  | expectedIdent => "expected ident"
  | expectedColon => "expected `:`"
  | expectedCommaOrBrace => "expected `,` or `\x7d`"
  | expectedCommaOrBracket => "expected `,` or `]`"
  | keyNotString => "key must be a string"
  | trailingComma => "trailing comma"
  | trailingCharacters => "trailing characters"
  | invalidNumber => "invalid number"
  | numberOutOfRange => "number out of range"
  | controlCharacter => "control character (\\u0000-\\u001F) found while parsing a string"
  | invalidEscape => "invalid escape"
  | loneSurrogate => "lone leading surrogate in hex escape"
  | unfinishedSurrogate => "unexpected end of hex escape"
  | invalidType found expected => "invalid type: " ++ found.text ++ ", expected " ++ expected
  | invalidValue value expected =>
    "invalid value: integer `" ++ Text.signed value ++ "`, expected " ++ expected
  | missingField name => "missing field `" ++ name ++ "`"
  | duplicateField name => "duplicate field `" ++ name ++ "`"
  | invalidLength length expected =>
    "invalid length " ++ Text.decimal length ++ ", expected " ++ expected
  | width bits => "significand width must be in 1..=64, got " ++ Text.decimal bits

end Cause

structure Place where
  line : Nat
  column : Nat
  deriving DecidableEq

namespace Place

def advance : List Char → Nat → Place → Place
  | [], _, place => place
  | c :: cs, bytes, place =>
    if bytes < c.utf8Size then { place with column := place.column + bytes }
    else if c = '\n' then advance cs (bytes - 1) ⟨place.line + 1, 0⟩
    else advance cs (bytes - c.utf8Size) { place with column := place.column + c.utf8Size }

def ofOffset (text : List Char) (offset : Nat) : Place := advance text offset ⟨1, 0⟩

end Place

namespace Error

def message (text : String) (error : Error) : String :=
  match error.remaining with
  | none => error.cause.text
  | some remaining =>
    let place := Place.ofOffset text.toList (byteLength text.toList - remaining)
    error.cause.text ++ " at line " ++ Text.decimal place.line ++ " column "
      ++ Text.decimal place.column

end Error

end DecimalPowers.Json
