import DecimalPowers.Text.Numeral

/-!
Files as a run sees them. A path leads to a file or to none; how it does so (through links, with
which permissions) is left to the file system, and two paths may lead to one file.
-/

set_option autoImplicit false
set_option relaxedAutoImplicit false

namespace DecimalPowers

/-- Why a file cannot be read or created: an error of the system with its number, or one that is
found before or after the system is asked. -/
inductive FileError where
  | system (description : String) (code : Nat)
  | plain (description : String)
  deriving DecidableEq

namespace FileError

def notFound : FileError := system "No such file or directory" 2

def notDirectory : FileError := system "Not a directory" 20

def isDirectory : FileError := system "Is a directory" 21

def notText : FileError := plain "stream did not contain valid UTF-8"

def message : FileError → String
  | system description code => description ++ " (os error " ++ Text.decimal code ++ ")"
  | plain description => description

end FileError

/-- A path as it is written: its parts lie between slashes, and may be empty. -/
structure Path where
  parts : List String
  deriving DecidableEq

namespace Path

def splitAt (separator : Char) : List Char → List (List Char)
  | [] => [[]]
  | c :: cs =>
    match splitAt separator cs with
    | [] => []
    | part :: parts => if c = separator then [] :: part :: parts else (c :: part) :: parts

def ofString (text : String) : Path := ⟨(splitAt '/' text.toList).map String.ofList⟩

def text (path : Path) : String := "/".intercalate path.parts

end Path

/-- Files that are read, created and written by their paths. A `File` is what a path leads to, and
is the same for all paths that lead to it. A file is created empty, and one that is there already is
emptied; when it cannot be created nothing has changed. -/
class FileSystem (σ : Type) where
  File : Type
  resolve? : σ → Path → Option File
  content? : σ → File → Option (List UInt8)
  read : σ → Path → Except FileError (List UInt8)
  create : σ → Path → Except FileError (File × σ)
  append : σ → File → List UInt8 → σ

namespace FileSystem

variable {σ : Type} [FileSystem σ]

def readText (store : σ) (path : Path) : Except FileError String := do
  let bytes ← read store path
  match String.fromUTF8? (ByteArray.mk bytes.toArray) with
  | some text => .ok text
  | none => .error .notText

end FileSystem

end DecimalPowers
