import DecimalPowers.Entry.Document
import DecimalPowers.Precision.Document
import DecimalPowers.Sink
import DecimalPowers.Table

/-!
The table as a JSON document: its range, precision and mantissa and the list of its entries, in
pretty form, followed by a newline.
-/

set_option autoImplicit false
set_option relaxedAutoImplicit false

namespace DecimalPowers

def ExponentRange.toJson (r : ExponentRange) : Json.Value :=
  .object [("min", .integer r.min), ("max", .integer r.max)]

namespace Table

def toJson (t : Table) : Json.Value :=
  .object [("range", t.range.toJson), ("precision", t.precision.toJson),
    ("mantissa", .integer t.mantissa), ("entries", .array (t.entries.map Entry.toJson))]

def document (t : Table) : String := String.join (t.toJson.pretty 0) ++ "\n"

/-- Writes the document to a sink. The newline after the value is not part of the value, so a
failure there is one of plain text. -/
def writeDocument (t : Table) (room : Option Nat) : Written :=
  let d := Delivery.deliver room (t.toJson.pretty 0)
  if d.complete then
    let newline := Delivery.deliver (room.map (fun n => n - d.received.length)) ["\n"]
    ⟨d.received ++ newline.received, if newline.complete then none else some .plain⟩
  else ⟨d.received, some .document⟩

end Table

end DecimalPowers
