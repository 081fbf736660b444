import DecimalPowers.Text.Numeral

/-!
Command line options: their names, the values they take, and the ways in which a command line is
rejected.
-/

set_option autoImplicit false
set_option relaxedAutoImplicit false

namespace DecimalPowers

inductive Format where
  | source
  | document
  deriving DecidableEq

/-- Why the words are not taken as options, or what is asked for in their place. -/
inductive Rejection where
  | unknownArgument
  | invalidValue
  | valueValidation
  | tooManyValues
  | argumentConflict
  | help
  | version
  deriving DecidableEq

structure Options where
  config : Option String := none
  minExp : Option Int := none
  maxExp : Option Int := none
  bits : Option Nat := none
  mantissa : Option Nat := none
  format : Format := .source
  header : Option String := none
  output : Option String := none
  verbose : Bool := false
  deriving DecidableEq

inductive OptionName where
  | config | minExp | maxExp | bits | mantissa | format | header | output
  | verbose | help | version
  deriving DecidableEq

namespace OptionName

def ofLong? (name : String) : Option OptionName :=
  [("config", config), ("min-exp", minExp), ("max-exp", maxExp), ("bits", bits),
    ("mantissa", mantissa), ("format", format), ("header", header), ("output", output),
    ("verbose", verbose), ("help", help), ("version", version)].lookup name

def ofLetter? (letter : Char) : Option OptionName :=
  [('c', config), ('b', bits), ('m', mantissa), ('f', format), ('o', output), ('v', verbose),
    ('h', help), ('V', version)].lookup letter

def hasValue : OptionName → Bool
  | verbose => false
  | help => false
  | version => false
  | _ => true

/-- Whether any word is the value of the option before it, also one that begins with a hyphen. -/
def takesAnyWord : OptionName → Bool
  | minExp => true
  | maxExp => true
  | _ => false

end OptionName

namespace Options

def integer? (s : List Char) : Option Int :=
  match s with
  | '-' :: ds => (Text.digits? ds).map (fun n => -(n : Int))
  | '+' :: ds => (Text.digits? ds).map (fun n => (n : Int))
  | ds => (Text.digits? ds).map (fun n => (n : Int))

def natural? (s : List Char) : Option Nat :=
  match s with
  | '+' :: ds => Text.digits? ds
  | ds => Text.digits? ds

def checkInteger (low high : Int) (value : String) : Except Rejection Int :=
  match integer? value.toList with
  | some x => if low ≤ x ∧ x ≤ high then .ok x else .error .valueValidation
  | none => .error .valueValidation

def checkNatural (value : String) : Except Rejection Nat :=
  match natural? value.toList with
  | some n => if n < UInt64.size then .ok n else .error .valueValidation
  | none => .error .valueValidation

def checkFormat (value : String) : Except Rejection Format :=
  match value with
  | "rust" => .ok .source
  | "json" => .ok .document
  | _ => .error .invalidValue

def checkPath (value : String) : Except Rejection String :=
  if value.isEmpty then .error .invalidValue else .ok value

def assign (o : Options) (name : OptionName) (value : String) : Except Rejection Options :=
  match name with
  | .config => (checkPath value).map (fun path => { o with config := some path })
  | .minExp =>
    (checkInteger (-2147483648) 2147483647 value).map (fun x => { o with minExp := some x })
  | .maxExp =>
    (checkInteger (-2147483648) 2147483647 value).map (fun x => { o with maxExp := some x })
  | .bits => (checkInteger 0 4294967295 value).map (fun x => { o with bits := some x.toNat })
  | .mantissa => (checkNatural value).map (fun n => { o with mantissa := some n })
  | .format => (checkFormat value).map (fun format => { o with format })
  | .header => (checkPath value).map (fun path => { o with header := some path })
  | .output => (checkPath value).map (fun path => { o with output := some path })
  | .verbose => .ok { o with verbose := true }
  | .help => .ok o
  | .version => .ok o

end Options

end DecimalPowers
