import DecimalPowers.CommandLine.Options

/-!
Reading the command line. `Options.parse` reads the words after the program's name from left to
right. A value attached to its option is checked at once; a value in a word of its own is checked
when the next option is recognized, or at the end.
-/

set_option autoImplicit false
set_option relaxedAutoImplicit false

namespace DecimalPowers

namespace Options

/-- What has been read: the options, the names that were given, and an option whose value has not
been checked, or not been read. -/
structure Reading where
  options : Options := {}
  given : List OptionName := []
  pending : Option (OptionName × Option String) := none

namespace Reading

def take (r : Reading) (name : OptionName) (value : String) : Except Rejection Reading :=
  if r.given.contains name then .error .argumentConflict
  else do
    let options ← r.options.assign name value
    .ok { options, given := name :: r.given, pending := none }

def settle (r : Reading) : Except Rejection Reading :=
  match r.pending with
  | none => .ok r
  | some (_, none) => .error .invalidValue
  | some (name, some value) => take r name value

/-- Takes an option without a value. Help and version end the reading. -/
def takeFlag (r : Reading) (name : OptionName) : Except Rejection Reading := do
  let r ← r.settle
  match name with
  | .help => .error .help
  | .version => .error .version
  | name => r.take name ""

def takeAttached (r : Reading) (name : OptionName) (value : String) : Except Rejection Reading := do
  let r ← r.settle
  r.take name value

def await (r : Reading) (name : OptionName) : Except Rejection Reading := do
  let r ← r.settle
  .ok { r with pending := some (name, none) }

def takeLong (r : Reading) (word : List Char) : Except Rejection Reading :=
  let name := word.takeWhile (· ≠ '=')
  let attached := (word.drop name.length).drop 1
  let hasAttached := name.length < word.length
  match OptionName.ofLong? (String.ofList name) with
  | none => .error .unknownArgument
  | some name =>
    if name.hasValue then
      if hasAttached then r.takeAttached name (String.ofList attached) else r.await name
    else if hasAttached then .error .tooManyValues
    else r.takeFlag name

/-- Takes the letters after one hyphen. What follows the letter of an option with a value is its
value, without an equals sign at its start. -/
def takeLetters (r : Reading) : List Char → Except Rejection Reading
  | [] => .ok r
  | letter :: letters =>
    match OptionName.ofLetter? letter with
    | none => .error .unknownArgument
    | some name =>
      if name.hasValue then
        match letters with
        | [] => r.await name
        | '=' :: value => r.takeAttached name (String.ofList value)
        | value => r.takeAttached name (String.ofList value)
      else do
        let r ← r.takeFlag name
        takeLetters r letters

/-- Takes a word that is not the value of the option before it. There are no positional arguments.
-/
def takeOption (r : Reading) (word : String) : Except Rejection Reading :=
  match word.toList with
  | '-' :: '-' :: name => r.takeLong name
  | '-' :: letter :: letters => r.takeLetters (letter :: letters)
  | _ => .error .unknownArgument

def takeAwaited (r : Reading) (name : OptionName) (word : String) : Except Rejection Reading :=
  let value : Except Rejection Reading := .ok { r with pending := some (name, some word) }
  if name.takesAnyWord then value
  else
    match word.toList with
    | '-' :: _ :: _ => r.takeOption word
    | _ => value

/-- Reads the words. After two hyphens alone no word may follow. -/
def words (r : Reading) : List String → Except Rejection Options
  | [] => r.settle.map Reading.options
  | word :: rest =>
    let awaited := match r.pending with
      | some (name, none) => some name
      | _ => none
    if word = "--" ∧ !awaited.any OptionName.takesAnyWord then
      if rest.isEmpty then r.settle.map Reading.options else .error .unknownArgument
    else do
      let r ← match awaited with
        | some name => r.takeAwaited name word
        | none => r.takeOption word
      words r rest

end Reading

def parse (words : List String) : Except Rejection Options := Reading.words {} words

end Options

end DecimalPowers
