import DecimalPowers.FileSystem

/-!
A tree of directories and regular files, without links, in which everything may be read and written.
A file or directory is known by the names on the way to it, from the working directory or from the
root. In a tree without links the names are those of the path, less each that a `..` takes back.
-/

set_option autoImplicit false
set_option relaxedAutoImplicit false

namespace DecimalPowers

namespace Path

def step (names : List String) (part : String) : List String :=
  if part = "" || part = "." then names
  else if part = ".." then
    if names = ["/"] then names
    else if names.all (· = "..") then names ++ [".."]
    else names.dropLast
  else names ++ [part]

/-- The names on the way that parts make. From the root, they begin with the name `/`. -/
def namesOf (parts : List String) : List String :=
  parts.foldl step (if parts.head? = some "" then ["/"] else [])

def names (path : Path) : List String := namesOf path.parts

def toLastName (path : Path) : List String := (path.parts.reverse.dropWhile (· = "")).reverse

/-- The part that names what the path leads to. It is no name of a file when it is empty, as after a
slash at the end, or is one of the dots. -/
def fileName? (path : Path) : Option String :=
  path.parts.getLast?.filter fun part => part ≠ "" && part ≠ "." && part ≠ ".."

end Path

/-- The contents of files, and the directories, by the names on the way to them. -/
structure FileStore where
  files : List (List String × List UInt8)
  directories : List (List String) := []
  deriving DecidableEq

namespace FileStore

def content? (store : FileStore) (names : List String) : Option (List UInt8) :=
  store.files.lookup names

/-- Whether there is a directory: the working directory or one above it, the root, or one that is
known or on the way to what is known. -/
def hasDirectory (store : FileStore) (names : List String) : Bool :=
  names.all (· = "..") || names = ["/"] || store.directories.any (names.isPrefixOf ·)
    || store.files.any (fun file => names.isPrefixOf file.1 && names ≠ file.1)

def obstacle? (store : FileStore) (ways : List (List String)) : Option FileError :=
  (ways.find? fun names => !store.hasDirectory names).map fun names =>
    if (store.content? names).isSome then .notDirectory else .notFound

/-- The places on the way to the last part, which all have to be directories. -/
def ways (parts : List String) : List (List String) :=
  (List.range parts.length).map fun n => Path.namesOf (parts.take n)

def read (store : FileStore) (path : Path) : Except FileError (List UInt8) :=
  if path.parts = [""] then .error .notFound
  else
    match store.obstacle? (ways path.parts) with
    | some cause => .error cause
    | none =>
      if store.hasDirectory path.names then .error .isDirectory
      else
        match store.content? path.names with
        | some bytes => .ok bytes
        | none => .error .notFound

def hasPath (store : FileStore) (path : Path) : Bool :=
  match store.read path with
  | .ok _ => true
  | .error cause => cause = .isDirectory

def write (store : FileStore) (path : Path) (bytes : List UInt8) : FileStore :=
  { store with
    files := (path.names, bytes) :: store.files.filter (fun file => file.1 ≠ path.names) }

/-- The store with an empty file at a path, whether there was one or not. Its directory has to be
there, and a path that ends in a slash or a dot makes no file. -/
def create (store : FileStore) (path : Path) : Except FileError (List String × FileStore) :=
  if path.parts = [""] then .error .notFound
  else
    match store.obstacle? (ways path.toLastName) with
    | some cause => .error cause
    | none =>
      if path.fileName?.isNone || store.hasDirectory path.names then .error .isDirectory
      else .ok (path.names, store.write path [])

def append (store : FileStore) (names : List String) (more : List UInt8) : FileStore :=
  { store with
    files := store.files.map fun file =>
      (file.1, if file.1 = names then file.2 ++ more else file.2) }

instance : FileSystem FileStore where
  File := List String
  resolve? store path := (store.read path).toOption.map fun _ => path.names
  content? := content?
  read := read
  create := create
  append := append

end FileStore

end DecimalPowers
