import DecimalPowers.Failure

/-!
Rounding a ratio to a float. `roundRatio u v k p` is the float of precision `p` nearest to
`(u / v) * 2 ^ k`, a tie going to the even significand, for a ratio whose integer part is already a
normalized significand.
-/

set_option autoImplicit false
set_option relaxedAutoImplicit false

namespace DecimalPowers

/-- Whether a quotient is to be rounded up: by the remainder against half the divisor, and at a tie
when the quotient is odd. -/
def roundsUp (quotient remainder divisor : Nat) : Bool :=
  match compare remainder (divisor - remainder) with
  | .lt => false
  | .eq => quotient % 2 = 1
  | .gt => true

/-- The float nearest to `(u / v) * 2 ^ k`, a tie going to the even significand. -/
def roundRatio (u v : Nat) (k : Int) (p : Precision) : Except Failure BinaryFloat :=
  if v = 0 then .error (.refused (.precondition .zeroDenominator))
  else if ¬ p.Normalized (u / v) then
    .error (.refused (.precondition (.quotientNotNormalized (u / v) p)))
  else
    (do
      let z ← BinaryFloat.ofParts p (u / v) k
      if roundsUp (u / v) (u % v) v then z.succ else .ok z).mapError .fault

end DecimalPowers
