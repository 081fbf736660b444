import DecimalPowers.Logged
import DecimalPowers.Rounding
import DecimalPowers.Scaling

/-!
Approximating `f * 10 ^ e`. `approximate` scales the exact ratio into the significand window and
rounds it; `verify` measures a float against the exact value and refuses it at half a unit or more;
`approximateChecked` does one after the other.
-/

set_option autoImplicit false
set_option relaxedAutoImplicit false

namespace DecimalPowers

def scaleDecimal (f : Nat) (e : Int) (f_pos : 0 < f) (p : Precision) : Scaled :=
  Scaled.normalize p ⟨Ratio.ofDecimal f e f_pos, 0⟩

/-- The float nearest to `f * 10 ^ e`, a tie going to the even significand. -/
def approximate (f e : Int) (p : Precision) : Logged Failure BinaryFloat :=
  if h : 0 < f then do
    let s := scaleDecimal f.toNat e (by omega) p
    Logged.emit (.quotientNormalized e s.exponent)
    Logged.ofExcept (roundRatio s.ratio.numer s.ratio.denom s.exponent p)
  else Logged.fail (.refused (.precondition (.mantissaNotPositive f)))

/-- The error of `z` as an approximation of `f * 10 ^ e`, if it is below half a unit. -/
def verify (f : Nat) (e : Int) (z : BinaryFloat) : Logged Failure UlpError :=
  let error := UlpError.measure f e z
  if error.isBelowHalf then pure error
  else do
    Logged.emit (.inaccurate e z error)
    Logged.fail (.refused (.inaccurate e z error))

structure Checked where
  float : BinaryFloat
  error : UlpError

/-- The float nearest to `f * 10 ^ e` with its error, which has to be below half a unit. -/
def approximateChecked (f e : Int) (p : Precision) : Logged Failure Checked := do
  let float ← approximate f e p
  let error ← verify f.toNat e float
  pure ⟨float, error⟩

end DecimalPowers
