import DecimalPowers.ExponentRange

/-!
Table entries: a significand of at most 64 bits and a binary exponent of 16 bits.
-/

set_option autoImplicit false
set_option relaxedAutoImplicit false

namespace DecimalPowers

/-- The significand and the binary exponent of a float, as a table stores them. -/
@[ext]
structure Entry where
  significand : Nat
  exponent : Int
  significand_lt : significand < UInt64.size
  exponent_fits : FitsInt16 exponent

namespace Entry

instance : DecidableEq Entry := fun _ _ => decidable_of_iff _ Entry.ext_iff.symm

def ofFloat (decimal : Int) (z : BinaryFloat) : Except TableError Entry :=
  if h : FitsInt16 z.exponent then .ok ⟨z.significand, z.exponent, z.significand_lt, h⟩
  else .error (.exponentOutOfRange decimal z.exponent)

end Entry

end DecimalPowers
