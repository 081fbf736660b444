import DecimalPowers.Binary64.Shortest
import DecimalPowers.UlpError

/-!
The shown form of an error. The error is cut to a multiple of `2 ^ -53`, that multiple is rounded
to binary64, and the shortest decimal of the result is written without an exponent. Of two equally
near decimals it is the greater.
-/

set_option autoImplicit false
set_option relaxedAutoImplicit false

namespace DecimalPowers.UlpError

/-- The error as a binary64 magnitude. The integer part of `2 ^ 53` times the error is rounded, and
infinite when it is out of range; dividing it by `2 ^ 53` again is exact. -/
def toBinary64 (a : UlpError) : Binary64 :=
  (Binary64.ofRatio (a.numer * Nat.pow 2 53 / a.denom) 1).scaleDown 53

def display (a : UlpError) : String :=
  (match a.toBinary64 with
    | .finite m x => (ShortDecimal.ofFinite .up m x).positional
    | .infinite => "inf") ++ " ULP"

end DecimalPowers.UlpError
