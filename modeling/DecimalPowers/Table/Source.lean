import DecimalPowers.Sink
import DecimalPowers.Table
import DecimalPowers.Text.Blank

/-!
The table as source text: the bounds of the range and the two columns as constants, under a comment
and an optional header. The mantissa and the width are mentioned where they differ from 1 and 64.
-/

set_option autoImplicit false
set_option relaxedAutoImplicit false

namespace DecimalPowers.Table

/-- The header line, without the blanks at the ends of the header. -/
def headerLines (header : Option String) : List String :=
  match header with
  | some text => [Text.trim text ++ "\n"]
  | none => []

def commentLines (t : Table) : List String :=
  ["// Table of approximations of powers of ten.\n",
    "// DO NOT MODIFY: Generated by pow10-table\n"]
  ++ (if t.mantissa = 1 then []
    else ["// Entries approximate " ++ Text.decimal t.mantissa ++ " * 10^e.\n"])
  ++ (if t.precision.bits = 64 then []
    else ["// Significands are " ++ Text.decimal t.precision.bits ++ " bits wide.\n"])

def constantLines (t : Table) : List String :=
  ["pub const MIN_E: i16 = " ++ Text.signed t.range.min ++ ";\n",
    "pub const MAX_E: i16 = " ++ Text.signed t.range.max ++ ";\n",
    "\n",
    "pub const POWERS: ([u64; " ++ Text.decimal t.size ++ "], [i16; " ++ Text.decimal t.size
      ++ "]) = ([\n"]
  ++ t.significands.map (fun sig => "    0x" ++ Text.hex sig ++ ",\n")
  ++ ["], [\n"]
  ++ t.exponents.map (fun exp => "    " ++ Text.signed exp ++ ",\n")
  ++ ["]);\n"]

def sourceLines (t : Table) (header : Option String) : List String :=
  headerLines header ++ t.commentLines ++ t.constantLines

def source (t : Table) (header : Option String) : String := String.join (t.sourceLines header)

def writeSource (t : Table) (header : Option String) (room : Option Nat) : Written :=
  let d := Delivery.deliver room (t.sourceLines header)
  ⟨d.received, if d.complete then none else some .plain⟩

end DecimalPowers.Table
