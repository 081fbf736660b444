import DecimalPowers.Text.Numeral

/-!
The JSON values that are written: integers, lists and records with plain words as keys. They have
a compact form on one line and a pretty form with one element per line, indented by two blanks.
-/

set_option autoImplicit false
set_option relaxedAutoImplicit false

namespace DecimalPowers.Json

inductive Value where
  | integer (x : Int)
  | array (items : List Value)
  | object (members : List (String × Value))

namespace Value

def quotedKey (key : String) : String := "\"" ++ key ++ "\""

def newLine (level : Nat) : String := "\n" ++ String.ofList (List.replicate (2 * level) ' ')

mutual

def compact : Value → String
  | integer x => Text.signed x
  | array items => "[" ++ compactItems items ++ "]"
  | object members => "\x7b" ++ compactMembers members ++ "\x7d"

def compactItems : List Value → String
  | [] => ""
  | [item] => item.compact
  | item :: items => item.compact ++ "," ++ compactItems items

def compactMembers : List (String × Value) → String
  | [] => ""
  | [(key, value)] => quotedKey key ++ ":" ++ value.compact
  | (key, value) :: members =>
    quotedKey key ++ ":" ++ value.compact ++ "," ++ compactMembers members

end

mutual

/-- The pretty form, in pieces, at a level of indentation. -/
def pretty (level : Nat) : Value → List String
  | integer x => [Text.signed x]
  | array [] => ["[]"]
  | array (item :: items) =>
    ["[" ++ newLine (level + 1)] ++ item.pretty (level + 1) ++ prettyItems level items
  | object [] => ["\x7b\x7d"]
  | object ((key, value) :: members) =>
    ["\x7b" ++ newLine (level + 1), quotedKey key ++ ": "] ++ value.pretty (level + 1)
      ++ prettyMembers level members

def prettyItems (level : Nat) : List Value → List String
  | [] => [newLine level ++ "]"]
  | item :: items =>
    ["," ++ newLine (level + 1)] ++ item.pretty (level + 1) ++ prettyItems level items

def prettyMembers (level : Nat) : List (String × Value) → List String
  | [] => [newLine level ++ "\x7d"]
  | (key, value) :: members =>
    ["," ++ newLine (level + 1), quotedKey key ++ ": "] ++ value.pretty (level + 1)
      ++ prettyMembers level members

end

end Value

end DecimalPowers.Json
