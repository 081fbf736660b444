import DecimalPowers.CommandLine.Options
import DecimalPowers.Parameters.Document
import DecimalPowers.Table.Document
import DecimalPowers.Table.Source

/-!
A run of the program: it loads the parameters and the header, generates the table, creates the
output and writes to it. The output is created only when the table is there, so a run that fails
has changed no file and written nothing.
-/

set_option autoImplicit false
set_option relaxedAutoImplicit false

namespace DecimalPowers

inductive RunError where
  | config (path : String) (cause : LoadError)
  | headerOfDocument
  | header (path : String) (cause : FileError)
  | generation (cause : Failure)
  | create (path : String) (cause : FileError)

namespace RunError

def message : RunError → String
  | config path cause => "failed to load config " ++ path ++ ": " ++ cause.message
  | headerOfDocument => "--header only applies to Rust output"
  | header path cause => "failed to read header " ++ path ++ ": " ++ cause.message
  | generation cause => "power table generation failed: " ++ cause.message
  | create path cause => "failed to create " ++ path ++ ": " ++ cause.message

end RunError

structure Session (σ : Type) where
  store : σ
  stdout : List UInt8 := []
  events : List Event := []

/-- A part of a run. What it has changed stays changed when it fails. -/
abbrev Run (σ α : Type) : Type := ExceptT RunError (StateM (Session σ)) α

namespace Run

variable {σ ε α : Type}

def check (cause : ε → RunError) (x : Except ε α) : Run σ α :=
  match x with
  | .ok a => pure a
  | .error e => throw (cause e)

def logged (cause : ε → RunError) (x : Logged ε α) : Run σ α := do
  modify (fun session => { session with events := session.events ++ x.events })
  check cause x.outcome

end Run

namespace Options

variable {σ : Type} [FileSystem σ]

def override (o : Options) (c : Parameters) : Parameters where
  minExp := o.minExp.getD c.minExp
  maxExp := o.maxExp.getD c.maxExp
  bits := o.bits.getD c.bits
  mantissa := o.mantissa.getD c.mantissa

/-- The parameters of a run: those of the options, then those of the file, then the defaults. -/
def parameters (o : Options) (store : σ) : Except RunError Parameters := do
  let c ← match o.config with
    | some path => (Parameters.load store (Path.ofString path)).mapError (.config path)
    | none => .ok {}
  .ok (o.override c)

/-- The text of the header, which only the source text can have. -/
def headerText (o : Options) (store : σ) : Except RunError (Option String) :=
  match o.header with
  | none => .ok none
  | some path =>
    if o.format ≠ .source then .error .headerOfDocument
    else ((FileSystem.readText store (Path.ofString path)).mapError (.header path)).map some

def render (o : Options) (header : Option String) (t : Table) : String :=
  match o.format with
  | .source => t.source header
  | .document => t.document

def createOutput (o : Options) : Run σ (Option (FileSystem.File σ)) := do
  match o.output with
  | none => pure none
  | some path =>
    let session ← get
    let (file, store) ← Run.check (.create path)
      (FileSystem.create session.store (Path.ofString path))
    set { session with store }
    pure (some file)

def writeOutput (file : Option (FileSystem.File σ)) (text : String) : Run σ Unit :=
  match file with
  | none => modify (fun session => { session with stdout := session.stdout ++ utf8 text })
  | some file =>
    modify (fun session =>
      { session with store := FileSystem.append session.store file (utf8 text) })

def run (o : Options) : Run σ Unit := do
  let store := (← get).store
  let c ← Run.check id (o.parameters store)
  let header ← Run.check id (o.headerText store)
  let t ← Run.logged .generation (Table.generate c)
  let file ← o.createOutput
  writeOutput file (o.render header t)
  match o.output with
  | none => pure ()
  | some path =>
    modify (fun session => { session with events := session.events ++ [.written path t.size] })

end Options

end DecimalPowers
