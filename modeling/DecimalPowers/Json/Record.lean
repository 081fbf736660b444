import DecimalPowers.Json.Skip

/-!
Reading records of integers. A record is written as an object, in which keys that are not fields
are passed over, or as a list of its fields in order. `readRecord` returns the fields that are
there; whether a field may be absent is part of the schema.
-/

set_option autoImplicit false
set_option relaxedAutoImplicit false

namespace DecimalPowers.Json

open Text (After)

inductive IntegerType where
  | int16
  | int32
  | nat32
  | nat64
  deriving DecidableEq

namespace IntegerType

def name : IntegerType → String
  | int16 => "i16"
  | int32 => "i32"
  | nat32 => "u32"
  | nat64 => "u64"

def min : IntegerType → Int
  | int16 => -32768
  | int32 => -2147483648
  | nat32 => 0
  | nat64 => 0

def max : IntegerType → Int
  | int16 => 32767
  | int32 => 2147483647
  | nat32 => 4294967295
  | nat64 => 18446744073709551615

end IntegerType

/-- What stands at the start of a text, where something else is expected. The brackets of a list or
an object are not passed over. -/
def readFound (s : List Char) : Except Error (Found × List Char) :=
  match s with
  | 'n' :: r => do
    let t ← scanWord ['u', 'l', 'l'] r
    .ok (.null, t.1)
  | 't' :: r => do
    let t ← scanWord ['r', 'u', 'e'] r
    .ok (.boolean true, t.1)
  | 'f' :: r => do
    let t ← scanWord ['a', 'l', 's', 'e'] r
    .ok (.boolean false, t.1)
  | '"' :: r => do
    let (cs, t) ← scanString r
    .ok (.string (String.ofList cs), t.1)
  | '-' :: r => do
    let (x, t) ← scanNumber true r
    .ok (.number x, t)
  | '[' :: _ => .ok (.sequence, s)
  | '\x7b' :: _ => .ok (.map, s)
  | c :: _ =>
    if isDigit c then do
      let (x, t) ← scanNumber false s
      .ok (.number x, t)
    else .error (.within .expectedValue s)
  | [] => .error (.within .expectedValue s)

def wrongType {α : Type} (expected : String) (s : List Char) : Except Error α := do
  let (found, r) ← readFound s
  .error (.before (.invalidType found expected) r)

def integerOf (type : IntegerType) (found : Found) (rest : List Char) : Except Error Int :=
  let check (x : Int) : Except Error Int :=
    if type.min ≤ x ∧ x ≤ type.max then .ok x
    else .error (.before (.invalidValue x type.name) rest)
  match found with
  | .number (.natural n) => check n
  | .number (.negative x) => check x
  | found => .error (.before (.invalidType found type.name) rest)

def readInteger (type : IntegerType) (s : List Char) : Except Error (Int × List Char) :=
  match skipSpace s with
  | [] => .error (.within .endInValue [])
  | t => do
    let (found, r) ← readFound t
    let x ← integerOf type found r
    .ok (x, r)

structure Field where
  key : String
  type : IntegerType

/-- The fields of a record in order, and whether all of them have to be there. -/
structure Schema where
  name : String
  fields : List Field
  required : Bool

abbrev Values := List (String × Int)

namespace Schema

def expected (schema : Schema) : String := "struct " ++ schema.name

def field? (schema : Schema) (key : String) : Option Field :=
  schema.fields.find? (fun field => field.key = key)

def missing? (schema : Schema) (values : Values) : Option Field :=
  if schema.required then
    schema.fields.find? (fun field => (values.lookup field.key).isNone)
  else none

end Schema

/-- Reports a cause that has no place of its own: it is placed after the blanks that follow and the
closing bracket, if that comes next. -/
def afterClosing (cause : Cause) (closing : Char) (s : List Char) : Error :=
  match skipSpace s with
  | c :: r => if c = closing then .before cause r else .before cause (c :: r)
  | [] => .before cause []

def readMember (schema : Schema) (values : Values) (key : String) (s : List Char) :
    Except Error (Values × List Char) :=
  match schema.field? key with
  | some field =>
    if (values.lookup key).isSome then
      .error (afterClosing (.duplicateField key) '\x7d' s)
    else do
      let colon ← skipColon s
      let (x, r) ← readInteger field.type colon.1
      .ok ((key, x) :: values, r)
  | none => do
    let colon ← skipColon s
    let r ← skipValue colon.1
    .ok (values, r)

/-- The start of the next key, or nothing at the end of the object. A comma comes before every key
but the first. -/
def nextKey? (isFirst : Bool) (s : List Char) : Except Error (Option (List Char)) :=
  match skipSpace s with
  | [] => .error (.within .endInObject [])
  | '\x7d' :: _ => .ok none
  | t =>
    if isFirst then
      match t with
      | '"' :: r => .ok (some r)
      | _ => .error (.within .keyNotString t)
    else
      match t with
      | ',' :: r =>
        match skipSpace r with
        | [] => .error (.within .endInValue [])
        | '"' :: u => .ok (some u)
        | '\x7d' :: u => .error (.within .trailingComma ('\x7d' :: u))
        | u => .error (.within .keyNotString u)
      | _ => .error (.within .expectedCommaOrBrace t)

/-- Reads the members of an object. `fuel` bounds their number. -/
def readMembers (schema : Schema) :
    (fuel : Nat) → (isFirst : Bool) → Values → List Char → Except Error (Values × List Char)
  | 0, _, _, s => .error (.within .endInObject s)
  | fuel + 1, isFirst, values, s => do
    match ← nextKey? isFirst s with
    | none => .ok (values, s)
    | some r =>
      let (key, t) ← scanString r
      let (values, u) ← readMember schema values (String.ofList key) t.1
      readMembers schema fuel false values u

/-- Reads an object, after its opening bracket. Every member takes more than one character, so the
length of the text bounds their number. -/
def readObject (schema : Schema) (s : List Char) : Except Error (Values × List Char) := do
  let (values, r) ← readMembers schema (s.length + 1) true [] s
  match schema.missing? values with
  | some field => .error (afterClosing (.missingField field.key) '\x7d' r)
  | none => .ok (values, (skipSpace r).drop 1)

def nextElement? (isFirst : Bool) (s : List Char) : Except Error (Option (List Char)) :=
  match skipSpace s with
  | [] => .error (.within .endInList [])
  | ']' :: _ => .ok none
  | t =>
    if isFirst then .ok (some t)
    else
      match t with
      | ',' :: r =>
        match skipSpace r with
        | [] => .error (.within .endInValue [])
        | ']' :: u => .error (.within .trailingComma (']' :: u))
        | u => .ok (some u)
      | _ => .error (.within .expectedCommaOrBracket t)

def readElements (schema : Schema) :
    List Field → (isFirst : Bool) → Values → List Char → Except Error (Values × List Char)
  | [], _, values, s => .ok (values, s)
  | field :: fields, isFirst, values, s => do
    match ← nextElement? isFirst s with
    | none =>
      if schema.required then
        .error (afterClosing (.invalidLength values.length
          (schema.expected ++ " with " ++ Text.decimal schema.fields.length ++ " elements")) ']' s)
      else .ok (values, s)
    | some t =>
      let (x, r) ← readInteger field.type t
      readElements schema fields false ((field.key, x) :: values) r

/-- The text after the bracket that closes a list, where no further element may come. -/
def endList (s : List Char) : Except Error (List Char) :=
  match skipSpace s with
  | ']' :: r => .ok r
  | ',' :: r =>
    match skipSpace r with
    | ']' :: t => .error (.within .trailingComma (']' :: t))
    | t => .error (.within .trailingCharacters t)
  | [] => .error (.within .endInList [])
  | t => .error (.within .trailingCharacters t)

def readRecord (schema : Schema) (s : List Char) : Except Error (Values × List Char) :=
  match skipSpace s with
  | [] => .error (.within .endInValue [])
  | '\x7b' :: r => readObject schema r
  | '[' :: r => do
    let (values, t) ← readElements schema schema.fields true [] r
    let u ← endList t
    .ok (values, u)
  | t => wrongType schema.expected t

def endText (s : List Char) : Except Error Unit :=
  match skipSpace s with
  | [] => .ok ()
  | t => .error (.within .trailingCharacters t)

def recordOfText (schema : Schema) (text : String) : Except Error Values := do
  let (values, r) ← readRecord schema text.toList
  endText r
  .ok values

end DecimalPowers.Json
