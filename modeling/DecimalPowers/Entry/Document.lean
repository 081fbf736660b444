import DecimalPowers.Entry
import DecimalPowers.Json.Record
import DecimalPowers.Json.Value

/-!
A table entry as a JSON document.
-/

set_option autoImplicit false
set_option relaxedAutoImplicit false

namespace DecimalPowers.Entry

def toJson (entry : Entry) : Json.Value :=
  .object [("significand", .integer entry.significand), ("exponent", .integer entry.exponent)]

def schema : Json.Schema where
  name := "PowerTableEntry"
  fields := [⟨"significand", .nat64⟩, ⟨"exponent", .int16⟩]
  required := true

/-- The entry with the given fields, which the schema has checked for their presence and type. -/
def ofValues? (values : Json.Values) : Option Entry := do
  let significand ← values.lookup "significand"
  let exponent ← values.lookup "exponent"
  if h : significand.toNat < UInt64.size ∧ FitsInt16 exponent then
    some ⟨significand.toNat, exponent, h.1, h.2⟩
  else none

def ofText (text : String) : Except Json.Error Entry := do
  let values ← Json.recordOfText schema text
  match ofValues? values with
  | some entry => .ok entry
  | none => .error ⟨.missingField "significand", none⟩

end DecimalPowers.Entry
