/-!
Blank characters: those with the White_Space property. `trim` drops them from both ends of a text.
-/

set_option autoImplicit false
set_option relaxedAutoImplicit false

namespace DecimalPowers.Text

/-- The code points with the White_Space property, as closed ranges in ascending order. -/
def blankRanges : List (Nat × Nat) :=
  [(0x9, 0xD), (0x20, 0x20), (0x85, 0x85), (0xA0, 0xA0), (0x1680, 0x1680), (0x2000, 0x200A),
    (0x2028, 0x2029), (0x202F, 0x202F), (0x205F, 0x205F), (0x3000, 0x3000)]

def isBlank (c : Char) : Bool :=
  blankRanges.any (fun r => r.1 ≤ c.toNat ∧ c.toNat ≤ r.2)

def trim (s : String) : String :=
  String.ofList
    ((s.toList.dropWhile isBlank).reverse.dropWhile isBlank).reverse

end DecimalPowers.Text
