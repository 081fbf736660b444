import DecimalPowers.UlpError.Display

/-!
Log events. Each event of a computation is a value with a level, a message and named fields;
showing the events up to a level is a filter on the list.
-/

set_option autoImplicit false
set_option relaxedAutoImplicit false

namespace DecimalPowers

inductive Level where
  | error | warn | info | debug | trace
  deriving DecidableEq

namespace Level

/-- The rank of a level; the most severe one has the least rank. -/
def rank : Level → Nat
  | error => 1
  | warn => 2
  | info => 3
  | debug => 4
  | trace => 5

def name : Level → String
  | error => "ERROR"
  | warn => "WARN"
  | info => "INFO"
  | debug => "DEBUG"
  | trace => "TRACE"

end Level

inductive Event where
  | quotientNormalized (e k : Int)
  | inaccurate (exponent : Int) (float : BinaryFloat) (error : UlpError)
  | generating (min max : Int) (bits mantissa : Nat)
  | entry (e : Int) (float : BinaryFloat) (error : UlpError)
  | verified (entries : Nat)
  | written (path : String) (entries : Nat)
  | failed (text : String)

namespace Event

def level : Event → Level
  | quotientNormalized .. => .trace
  | inaccurate .. => .error
  | generating .. => .info
  | entry .. => .debug
  | verified .. => .info
  | written .. => .info
  | failed _ => .error

def message : Event → String
  | quotientNormalized .. => "quotient normalized"
  | inaccurate .. => "approximation is not correctly rounded"
  | generating .. => "generating power table"
  | entry .. => "entry"
  | verified .. => "power table verified"
  | written .. => "table written"
  | failed text => text

def fields : Event → List (String × String)
  | quotientNormalized e k => [("e", Text.signed e), ("k", Text.signed k)]
  | inaccurate exponent float error =>
    [("exponent", Text.signed exponent), ("float", float.display), ("error", error.display)]
  | generating min max bits mantissa =>
    [("min_exp", Text.signed min), ("max_exp", Text.signed max), ("bits", Text.decimal bits),
      ("mantissa", Text.decimal mantissa)]
  | entry e float error =>
    [("e", Text.signed e), ("float", float.display), ("error", error.display)]
  | verified entries => [("entries", Text.decimal entries)]
  | written path entries => [("path", path), ("entries", Text.decimal entries)]
  | failed _ => []

def line (event : Event) : String :=
  event.fields.foldl (fun text field => text ++ " " ++ field.1 ++ "=" ++ field.2) event.message

/-- The events of a level and of more severe ones. -/
def upTo (level : Level) (events : List Event) : List Event :=
  events.filter (fun event => event.level.rank ≤ level.rank)

end Event

end DecimalPowers
