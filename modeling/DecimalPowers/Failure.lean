import DecimalPowers.UlpError.Display

/-!
Why a table cannot be made. `TableError` lists the causes that are reported to the caller;
`Failure` adds the faults of float arithmetic. Each cause has one text.
-/

set_option autoImplicit false
set_option relaxedAutoImplicit false

namespace DecimalPowers

inductive Precondition where
  | mantissaNotPositive (f : Int)
  | zeroDenominator
  | quotientNotNormalized (quotient : Nat) (precision : Precision)
  deriving DecidableEq

inductive ParameterError where
  | width (bits : Nat)
  | emptyRange (min max : Int)
  | rangeTooWide (min max : Int)
  | mantissaNotPositive
  deriving DecidableEq

inductive TableError where
  | precondition (cause : Precondition)
  | inaccurate (exponent : Int) (float : BinaryFloat) (error : UlpError)
  | exponentOutOfRange (decimal binary : Int)
  | parameters (cause : ParameterError)

/-- A reported reason, or a fault of float arithmetic. -/
inductive Failure where
  | refused (cause : TableError)
  | fault (cause : FloatFault)

namespace Precondition

def message : Precondition → String
  | mantissaNotPositive f => "decimal mantissa must be positive, got " ++ Text.signed f
  | zeroDenominator => "ratio denominator must be non-zero"
  | quotientNotNormalized q p =>
    "quotient " ++ Text.decimal q ++ " is not a normalized " ++ Text.decimal p.bits
      ++ "-bit significand"

end Precondition

namespace ParameterError

def message : ParameterError → String
  | width bits => "significand width must be in 1..=64, got " ++ Text.decimal bits
  | emptyRange min max =>
    "exponent range is empty: " ++ Text.signed min ++ " > " ++ Text.signed max
  | rangeTooWide min max =>
    "exponent range [" ++ Text.signed min ++ ", " ++ Text.signed max ++ "] does not fit in an i16"
  | mantissaNotPositive => "decimal mantissa must be positive"

end ParameterError

namespace TableError

def message : TableError → String
  | precondition cause => "Arithmetic precondition violated: " ++ cause.message
  | inaccurate exponent float error =>
    "Approximation of 10^" ++ Text.signed exponent ++ " as " ++ float.display ++ " is off by "
      ++ error.display ++ ", expected < 0.5 ULP"
  | exponentOutOfRange decimal binary =>
    "Binary exponent " ++ Text.signed binary ++ " of 10^" ++ Text.signed decimal
      ++ " does not fit in an i16"
  | parameters cause => "Invalid table configuration: " ++ cause.message

end TableError

namespace Failure

def message : Failure → String
  | refused cause => cause.message
  | fault cause => cause.message

end Failure

end DecimalPowers
