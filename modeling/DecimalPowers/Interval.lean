import DecimalPowers.BinaryFloat
import DecimalPowers.Interval.Words

/-!
Random floats from an interval. A draw takes the exponent uniformly from those that have a float in
the interval, and then the significand uniformly from those that keep the float within the bounds.
-/

set_option autoImplicit false
set_option relaxedAutoImplicit false

namespace DecimalPowers

/-- A nonempty interval of floats of one precision, with or without its upper bound. -/
structure Interval where
  low : BinaryFloat
  high : BinaryFloat
  inclusive : Bool
  precision_eq : low.precision = high.precision
  nonempty : low.compare high = .lt ∨ (low.compare high = .eq ∧ inclusive = true)

namespace Interval

inductive Fault where
  | precisionMismatch
  | empty (low high : BinaryFloat)
  | words (cause : Words.Fault)
  | float (cause : FloatFault)

namespace Fault

def message : Fault → String
  | precisionMismatch => "Unable to sample between floats of different precisions"
  | empty low high => "Unable to create range from " ++ low.display ++ " to " ++ high.display
  | words .emptyBounds => "no integer between the bounds"
  | words .exhausted => "random words exhausted"
  | float cause => cause.message

end Fault

def ofBounds (low high : BinaryFloat) (inclusive : Bool) : Except Fault Interval :=
  if hp : low.precision = high.precision then
    if h : low.compare high = .lt ∨ (low.compare high = .eq ∧ inclusive = true) then
      .ok ⟨low, high, inclusive, hp, h⟩
    else .error (.empty low high)
  else .error .precisionMismatch

def precision (i : Interval) : Precision := i.low.precision

/-- The greatest exponent of a float in the interval. An excluded bound at the bottom of its binade
leaves nothing there. -/
def lastExponent (i : Interval) : Int :=
  if i.inclusive = false ∧ i.high.significand = i.precision.minSig then i.high.exponent - 1
  else i.high.exponent

def firstSignificand (i : Interval) (exp : Int) : Nat :=
  if exp = i.low.exponent then i.low.significand else i.precision.minSig

def lastSignificand (i : Interval) (exp : Int) : Int :=
  if exp ≠ i.high.exponent then i.precision.maxSig
  else if i.inclusive then i.high.significand
  else i.high.significand - 1

/-- Draws an exponent. Nothing is drawn when both bounds have the same one. -/
def drawExponent (i : Interval) (words : List UInt64) : Except Fault (Int × List UInt64) :=
  if i.low.exponent = i.high.exponent then .ok (i.low.exponent, words)
  else (Words.uniform i.low.exponent i.lastExponent words).mapError .words

def drawSignificand (i : Interval) (exp : Int) (words : List UInt64) :
    Except Fault (Int × List UInt64) :=
  (Words.uniform (i.firstSignificand exp) (i.lastSignificand exp) words).mapError .words

def draw (i : Interval) (words : List UInt64) : Except Fault (BinaryFloat × List UInt64) := do
  let (exp, words) ← i.drawExponent words
  let (sig, words) ← i.drawSignificand exp words
  let z ← (BinaryFloat.ofParts i.precision sig.toNat exp).mapError .float
  pure (z, words)

/-- Draws a number of floats, up to the first that fails. Each comes with the words left after it.
-/
def draws (i : Interval) :
    Nat → List UInt64 → List (BinaryFloat × List UInt64) × Option Fault
  | 0, _ => ([], none)
  | n + 1, words =>
    match i.draw words with
    | .ok (z, words) =>
      let (drawn, fault) := i.draws n words
      ((z, words) :: drawn, fault)
    | .error fault => ([], some fault)

end Interval

end DecimalPowers
