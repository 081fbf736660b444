import DecimalPowers.Failure

/-!
Ranges of decimal exponents: closed, nonempty, and within the 16-bit integers.
-/

set_option autoImplicit false
set_option relaxedAutoImplicit false

namespace DecimalPowers

abbrev FitsInt16 (x : Int) : Prop := -32768 ≤ x ∧ x ≤ 32767

abbrev FitsInt32 (x : Int) : Prop := -2147483648 ≤ x ∧ x ≤ 2147483647

/-- The difference of two integers, when it fits in 32 bits. -/
def subInt32? (x y : Int) : Option Int := if FitsInt32 (x - y) then some (x - y) else none

/-- A closed interval of decimal exponents. -/
structure ExponentRange where
  min : Int
  max : Int
  min_le_max : min ≤ max
  min_fits : FitsInt16 min
  max_fits : FitsInt16 max
  deriving DecidableEq

namespace ExponentRange

/-- The range with the given ends. An empty range is reported before one that is too wide. -/
def ofBounds (min max : Int) : Except ParameterError ExponentRange :=
  if h : min ≤ max then
    if hf : FitsInt16 min ∧ FitsInt16 max then .ok ⟨min, max, h, hf.1, hf.2⟩
    else .error (.rangeTooWide min max)
  else .error (.emptyRange min max)

def size (r : ExponentRange) : Nat := (r.max - r.min).toNat + 1

def contains (r : ExponentRange) (e : Int) : Bool := r.min ≤ e ∧ e ≤ r.max

/-- The position of an exponent in the range. Nothing is subtracted unless it is there. -/
def indexOf? (r : ExponentRange) (e : Int) : Option Nat :=
  if r.contains e then (subInt32? e r.min).map Int.toNat else none

def toList (r : ExponentRange) : List Int :=
  (List.range r.size).map (fun (i : Nat) => r.min + i)

end ExponentRange

end DecimalPowers
