import DecimalPowers.Precision
import DecimalPowers.Text.Numeral

/-!
Binary floats. A `BinaryFloat` is a normalized significand of its precision times a power of two
whose exponent is a 64-bit signed integer. The order is by exponent and then by significand, and
`succ` and `pred` walk the floats of one precision one by one, stopping with a fault where the
exponent would leave its range.
-/

set_option autoImplicit false
set_option relaxedAutoImplicit false

namespace DecimalPowers

def minExponent : Int := -9223372036854775808

def maxExponent : Int := 9223372036854775807

abbrev ExponentInRange (x : Int) : Prop := minExponent ≤ x ∧ x ≤ maxExponent

inductive FloatFault where
  | additionOverflow
  | subtractionOverflow
  | notNormalized (significand : Nat) (precision : Precision)
  deriving DecidableEq

/-- A normalized significand times a power of two. -/
structure BinaryFloat where
  precision : Precision
  significand : Nat
  exponent : Int
  normalized : precision.Normalized significand
  exponent_mem : ExponentInRange exponent
  deriving DecidableEq

namespace BinaryFloat

/-- The float with the given parts. An exponent out of range is the overflow of the addition or
subtraction that led to it. -/
def ofParts (p : Precision) (sig : Nat) (exp : Int) : Except FloatFault BinaryFloat :=
  if hs : p.Normalized sig then
    if hx : ExponentInRange exp then .ok ⟨p, sig, exp, hs, hx⟩
    else .error (if exp < 0 then .subtractionOverflow else .additionOverflow)
  else .error (.notNormalized sig p)

/-- The order of floats: by exponent, then by significand. -/
def compare (a b : BinaryFloat) : Ordering :=
  (Ord.compare a.exponent b.exponent).then (Ord.compare a.significand b.significand)

instance : Ord BinaryFloat := ⟨compare⟩

def max (a b : BinaryFloat) : BinaryFloat := if (compare a b).isGT then a else b

def min (a b : BinaryFloat) : BinaryFloat := if (compare a b).isGT then b else a

def succ (z : BinaryFloat) : Except FloatFault BinaryFloat :=
  if z.significand = z.precision.maxSig then
    ofParts z.precision z.precision.minSig (z.exponent + 1)
  else ofParts z.precision (z.significand + 1) z.exponent

def pred (z : BinaryFloat) : Except FloatFault BinaryFloat :=
  if z.significand = z.precision.minSig then
    ofParts z.precision z.precision.maxSig (z.exponent - 1)
  else ofParts z.precision (z.significand - 1) z.exponent

def walk (step : BinaryFloat → Except FloatFault BinaryFloat) :
    Nat → BinaryFloat → Except FloatFault BinaryFloat
  | 0, z => .ok z
  | n + 1, z => do walk step n (← step z)

/-- The exact value as a fraction of natural numbers: a negative exponent scales the denominator,
any other the numerator. -/
def exactValue (z : BinaryFloat) : Nat × Nat :=
  (z.significand * Nat.pow 2 z.exponent.toNat, Nat.pow 2 (-z.exponent).toNat)

def display (z : BinaryFloat) : String :=
  "0x" ++ Text.hex z.significand ++ " * 2^" ++ Text.signed z.exponent

theorem significand_pos (z : BinaryFloat) : 0 < z.significand :=
  Nat.lt_of_lt_of_le z.precision.minSig_pos z.normalized.1

theorem significand_lt (z : BinaryFloat) : z.significand < UInt64.size :=
  Nat.lt_of_le_of_lt z.normalized.2 z.precision.maxSig_lt

end BinaryFloat

namespace FloatFault

def message : FloatFault → String
  | additionOverflow => "attempt to add with overflow"
  | subtractionOverflow => "attempt to subtract with overflow"
  | notNormalized sig p =>
    "Invalid NormalizedFloat: sig 0x" ++ Text.hex sig ++ " is outside SigRange("
      ++ Text.decimal p.minSig ++ ", " ++ Text.decimal p.maxSig ++ ") for "
      ++ Text.decimal p.bits ++ " bits"

end FloatFault

end DecimalPowers
