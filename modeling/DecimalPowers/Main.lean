import DecimalPowers.CommandLine.Process

/-!
The program. It gives the files named by its words to the process, and does what the process has
left to do: it writes the output file, prints, and ends with the exit code.
-/

set_option autoImplicit false
set_option relaxedAutoImplicit false

namespace DecimalPowers

/-- Whether there is a directory at a path: the system says so when the path is read as a file. -/
def isDirectory (path : String) : IO Bool := do
  try
    discard (IO.FS.readBinFile path)
    pure false
  catch cause => match cause with
    | .inappropriateType _ 21 _ => pure true
    | _ => pure false

def observe (store : FileStore) (text : String) : IO FileStore := do
  let path := Path.ofString text
  let mut store := store
  for n in List.range (path.parts.length + 1) do
    let way : Path := ⟨path.parts.take n⟩
    if ← isDirectory (if way.parts = [""] then "/" else way.text) then
      store := { store with directories := way.names :: store.directories }
  try
    let bytes ← IO.FS.readBinFile text
    pure (store.write path bytes.data.toList)
  catch _ => pure store

def observeAll (options : Options) : IO FileStore :=
  [options.config, options.header, options.output].foldlM
    (fun store path => match path with
      | some path => observe store path
      | none => pure store)
    { files := [] }

end DecimalPowers

open DecimalPowers in
def main (words : List String) : IO UInt32 := do
  let options := (Options.parse words).toOption
  let store ← match options with
    | some options => observeAll options
    | none => pure { files := [] }
  let finished := process words (← IO.getEnv "RUST_LOG") store
  for path in (options.bind Options.output).toList do
    if finished.exitCode = 0 then
      match finished.store.content? (Path.ofString path).names with
      | some bytes => IO.FS.writeBinFile path (ByteArray.mk bytes.toArray)
      | none => pure ()
  let stdout ← IO.getStdout
  stdout.write (ByteArray.mk finished.stdout.toArray)
  stdout.flush
  match finished.log with
  | some events => for event in events do IO.eprintln (event.level.name ++ " " ++ event.line)
  | none => IO.eprintln "error: the arguments are not accepted"
  pure finished.exitCode.toUInt32
