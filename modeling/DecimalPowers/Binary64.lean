/-!
The binary64 format, as exact arithmetic on natural numbers. A `Binary64` is a magnitude of the
format: a mantissa below `2 ^ 53` times a power of two that is at least `2 ^ -1074`, or infinity.
`ofRatio` rounds a fraction to the nearest magnitude, a tie to the even mantissa.
-/

set_option autoImplicit false
set_option relaxedAutoImplicit false

namespace DecimalPowers

def roundHalfEven (n d : Nat) : Nat :=
  if 2 * (n % d) < d then n / d
  else if d < 2 * (n % d) then n / d + 1
  else if n / d % 2 = 0 then n / d
  else n / d + 1

/-- The integer `x` with `2 ^ x ≤ n / d < 2 ^ (x + 1)`, for positive `n` and `d`. -/
def floorLog2 (n d : Nat) : Int :=
  let x : Int := (n.log2 : Int) - (d.log2 : Int)
  if d * Nat.pow 2 x.toNat ≤ n * Nat.pow 2 (-x).toNat then x else x - 1

/-- A magnitude of the binary64 format. A finite one is `mantissa * 2 ^ exponent`; its mantissa
has 53 bits, or fewer when the exponent is the least one. -/
inductive Binary64 where
  | finite (mantissa : Nat) (exponent : Int)
  | infinite
  deriving DecidableEq

namespace Binary64

def minExponent : Int := -1074

def maxExponent : Int := 971

def leastNormal : Nat := Nat.pow 2 52

def zero : Binary64 := finite 0 minExponent

/-- The magnitude with a given mantissa and exponent, where the mantissa may have reached the next
power of two. -/
def carry (mantissa : Nat) (exponent : Int) : Binary64 :=
  let (m, x) :=
    if mantissa = 2 * leastNormal then (leastNormal, exponent + 1) else (mantissa, exponent)
  if maxExponent < x then infinite else finite m x

def ofRatio (n d : Nat) : Binary64 :=
  if n = 0 then zero
  else
    let x := max minExponent (floorLog2 n d - 52)
    carry (roundHalfEven (n * Nat.pow 2 (-x).toNat) (d * Nat.pow 2 x.toNat)) x

def fraction (mantissa : Nat) (exponent : Int) : Nat × Nat :=
  (mantissa * Nat.pow 2 exponent.toNat, Nat.pow 2 (-exponent).toNat)

def mul : Binary64 → Binary64 → Binary64
  | finite m x, finite m' x' =>
    let (a, b) := fraction m x
    let (c, d) := fraction m' x'
    ofRatio (a * c) (b * d)
  | _, _ => infinite

def div : Binary64 → Binary64 → Binary64
  | finite m x, finite m' x' =>
    let (a, b) := fraction m x
    let (c, d) := fraction m' x'
    ofRatio (a * d) (b * c)
  | infinite, _ => infinite
  | _, infinite => zero

/-- The exact quotient by `2 ^ n`, of a magnitude so large that its mantissa keeps its bits. -/
def scaleDown (n : Nat) : Binary64 → Binary64
  | finite m x => if m = 0 then zero else finite m (x - n)
  | infinite => infinite

def toBits : Binary64 → Nat
  | finite m x =>
    if m < leastNormal then m
    else (x - minExponent + 1).toNat * leastNormal + (m - leastNormal)
  | infinite => 2047 * leastNormal

end Binary64

end DecimalPowers
