import DecimalPowers.ExponentRange

/-!
The parameters of a table: the range of decimal exponents, the significand width and the decimal
mantissa of its entries.
-/

set_option autoImplicit false
set_option relaxedAutoImplicit false

namespace DecimalPowers

/-- What a table is made for. Absent fields have the values of the reference table. -/
structure Parameters where
  minExp : Int := -305
  maxExp : Int := 305
  bits : Nat := 64
  mantissa : Nat := 1
  deriving DecidableEq

namespace Parameters

def precision (c : Parameters) : Except ParameterError Precision :=
  match Precision.ofBits? c.bits with
  | some p => .ok p
  | none => .error (.width c.bits)

def range (c : Parameters) : Except ParameterError ExponentRange :=
  ExponentRange.ofBounds c.minExp c.maxExp

structure Valid where
  precision : Precision
  range : ExponentRange
  mantissa : Nat
  mantissa_pos : 0 < mantissa

/-- Checks the width, then the range, then the mantissa. -/
def validate (c : Parameters) : Except ParameterError Valid := do
  let p ← c.precision
  let r ← c.range
  if h : 0 < c.mantissa then .ok ⟨p, r, c.mantissa, h⟩ else .error .mantissaNotPositive

end Parameters

end DecimalPowers
