import DecimalPowers.Json.Record
import DecimalPowers.Json.Value
import DecimalPowers.Precision

/-!
A precision as a JSON document: the width as an integer.
-/

set_option autoImplicit false
set_option relaxedAutoImplicit false

namespace DecimalPowers.Precision

def toJson (p : Precision) : Json.Value := .integer p.bits

/-- Reads a precision from a document. A width that is not one is reported without a place. -/
def ofText (text : String) : Except Json.Error Precision := do
  let (bits, rest) ← Json.readInteger .nat32 text.toList
  match ofBits? bits.toNat with
  | some p => do
    Json.endText rest
    .ok p
  | none => .error ⟨.width bits.toNat, none⟩

end DecimalPowers.Precision
