import DecimalPowers.CommandLine.Reading
import DecimalPowers.CommandLine.Run
import DecimalPowers.FileStore

/-!
The program as a process: its words, the level of its log, its exit code and what it prints. The
log goes to the standard error up to a level that the environment may set.
-/

set_option autoImplicit false
set_option relaxedAutoImplicit false

namespace DecimalPowers

def helpText : String :=
  String.join [
    "Generate a table of correctly rounded binary approximations of powers of ten\n",
    "\n",
    "Usage: pow10-table [OPTIONS]\n",
    "\n",
    "Options:\n",
    "  -c, --config <FILE>        JSON file with table parameters, flags below override it\n",
    "      --min-exp <MIN_EXP>    Smallest decimal exponent\n",
    "      --max-exp <MAX_EXP>    Largest decimal exponent\n",
    "  -b, --bits <BITS>          Significand width in bits\n",
    "  -m, --mantissa <MANTISSA>  Decimal mantissa of every entry\n",
    "  -f, --format <FORMAT>      [default: rust] [possible values: rust, json]\n",
    "      --header <FILE>        File whose contents are placed above the generated Rust table\n",
    "  -o, --output <FILE>        Write the table here instead of stdout\n",
    "  -v, --verbose              Turn debugging information on\n",
    "  -h, --help                 Print help\n",
    "  -V, --version              Print version\n"]

def versionText : String := "pow10-table 0.1.0\n"

abbrev Threshold := Option Level

namespace Threshold

/-- The threshold of a setting: the name of a level in any case, its rank, or `off`. An empty
setting shows errors. -/
def ofSetting? (setting : String) : Option Threshold :=
  [("", some .error), ("off", none), ("0", none), ("error", some .error), ("1", some .error),
    ("warn", some .warn), ("2", some .warn), ("info", some .info), ("3", some .info),
    ("debug", some .debug), ("4", some .debug), ("trace", some .trace), ("5", some .trace)].lookup
    (String.ofList (setting.toList.map Char.toLower))

def select (threshold : Threshold) (events : List Event) : List Event :=
  match threshold with
  | some level => Event.upTo level events
  | none => []

end Threshold

/-- What is left of a process. The log is absent when the words were rejected, as then the standard
error holds the usage. -/
structure Finished (σ : Type) where
  exitCode : Nat
  stdout : List UInt8
  log : Option (List Event)
  store : σ

def Session.log {σ : Type} (session : Session σ) (outcome : Except RunError Unit) : List Event :=
  match outcome with
  | .ok () => session.events
  | .error cause => session.events ++ [.failed cause.message]

def process {σ : Type} [FileSystem σ] (words : List String) (setting : Option String) (store : σ) :
    Finished σ :=
  match Options.parse words with
  | .error .help => ⟨0, utf8 helpText, some [], store⟩
  | .error .version => ⟨0, utf8 versionText, some [], store⟩
  | .error _ => ⟨2, [], none, store⟩
  | .ok options =>
    let (outcome, session) := options.run.run { store }
    let default : Threshold := if options.verbose then some .debug else some .info
    let threshold := (setting.bind Threshold.ofSetting?).getD default
    { exitCode := match outcome with
        | .ok () => 0
        | .error _ => 1
      stdout := session.stdout
      log := some (threshold.select (session.log outcome))
      store := session.store }

end DecimalPowers
