import DecimalPowers.BinaryFloat

/-!
Errors in units in the last place. `UlpError.measure f e z` is the exact distance of `z` from
`f * 10 ^ e`, divided by the unit of `z`'s last place, as a fraction with a positive denominator
that need not be in lowest terms. Errors are ordered as the rational numbers that they are.
-/

set_option autoImplicit false
set_option relaxedAutoImplicit false

namespace DecimalPowers

/-- An error in units in the last place, as a fraction. -/
structure UlpError where
  numer : Nat
  denom : Nat
  denom_pos : 0 < denom

namespace UlpError

/-- The distance of `z` from `f * 10 ^ e`, in units of `z`'s last place. -/
def measure (f : Nat) (e : Int) (z : BinaryFloat) : UlpError :=
  let n := f * Nat.pow 10 e.toNat * Nat.pow 2 (-z.exponent).toNat
  let d := Nat.pow 10 (-e).toNat * Nat.pow 2 z.exponent.toNat
  { numer := (n - z.significand * d) + (z.significand * d - n)
    denom := d
    denom_pos := Nat.mul_pos (Nat.pow_pos (by decide)) (Nat.two_pow_pos _) }

/-- The order of errors as rational numbers, by cross multiplication. -/
def compare (a b : UlpError) : Ordering :=
  Ord.compare (a.numer * b.denom) (b.numer * a.denom)

instance : Ord UlpError := ⟨compare⟩

/-- Errors are equal when they compare equal, whether or not their fractions are the same. -/
instance : BEq UlpError := ⟨fun a b => (compare a b).isEq⟩

def compareHalf (a : UlpError) : Ordering := Ord.compare (2 * a.numer) a.denom

def isBelowHalf (a : UlpError) : Bool := (compareHalf a).isLT

end UlpError

end DecimalPowers
