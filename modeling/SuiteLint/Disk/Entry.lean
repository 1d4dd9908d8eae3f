import SuiteLint.Path.Basic

/-!
# File system snapshots

The files and directories that a check can see, as a value.  Looking a path up walks its components
from the root, so that every name on the way has to be a directory that exists.
-/

namespace SuiteLint

/-! ### Failures -/

/-- **Why a file cannot be read**. -/
inductive ReadFailure where
  /-- There is nothing at the path. -/
  | notFound
  /-- A file stands where a directory is needed. -/
  | notADirectory
  /-- A directory stands where a file is needed. -/
  | isADirectory
  /-- The content is not text. -/
  | notText
  deriving DecidableEq, Repr

/-- The wording of a failure. -/
def ReadFailure.message : ReadFailure → String
  | notFound => "No such file or directory (os error 2)"
  | notADirectory => "Not a directory (os error 20)"
  | isADirectory => "Is a directory (os error 21)"
  | notText => "stream did not contain valid UTF-8"

/-! ### Entries -/

/-- **Entry** of a file system. -/
inductive Entry where
  /-- A file with its content. -/
  | file (content : ByteArray)
  /-- A directory with its entries by name. -/
  | directory (entries : List (String × Entry))

namespace Entry

/-- Whether an entry is a file. -/
def isFile : Entry → Bool
  | file _ => true
  | directory _ => false

/-- Whether an entry is a directory. -/
def isDirectory : Entry → Bool
  | file _ => false
  | directory _ => true

/-- The entries of a directory; a file has none. -/
def children : Entry → List (String × Entry)
  | file _ => []
  | directory entries => entries

/-- Puts an entry under a name, in place of the one that may be there. -/
def set (name : String) (entry : Entry) : List (String × Entry) → List (String × Entry)
  | [] => [(name, entry)]
  | (n, old) :: rest => if n = name then (n, entry) :: rest else (n, old) :: set name entry rest

/-- Puts an entry at a path of names, making the directories on the way.  An empty directory leaves
one that is already there as it is. -/
def put (entry : Entry) : List String → Entry → Entry
  | [], here =>
    match entry, here with
    | directory [], directory entries => directory entries
    | _, _ => entry
  | name :: rest, here =>
    let entries := here.children
    directory (set name (put entry rest ((entries.lookup name).getD (directory []))) entries)

/-- Follows components from an entry, `above` being the directories passed so far. -/
def follow (above : List Entry) (here : Entry) : List Path.Component → Except ReadFailure Entry
  | [] => .ok here
  | .root :: rest | .current :: rest => follow above here rest
  | .parent :: rest =>
    match here, above with
    | file _, _ => .error .notADirectory
    | directory _, [] => follow [] here rest
    | directory _, up :: above => follow above up rest
  | .name n :: rest =>
    match here with
    | file _ => .error .notADirectory
    | directory entries =>
      match entries.lookup (String.ofList n) with
      | none => .error .notFound
      | some entry => follow (here :: above) entry rest

end Entry

/-! ### Snapshots -/

/-- **Snapshot** of a file system, with the directory that relative paths start from. -/
structure Disk where
  /-- The root directory. -/
  root : Entry
  /-- The working directory, an absolute path. -/
  cwd : Path

namespace Disk

/-- A path in absolute form. -/
def absolute (disk : Disk) (path : Path) : Path :=
  disk.cwd.join path

/-- The names from the root that components lead through. -/
def namesThrough (names : List String) : List Path.Component → List String
  | [] => names
  | .root :: rest | .current :: rest => namesThrough names rest
  | .parent :: rest => namesThrough names.dropLast rest
  | .name n :: rest => namesThrough (names ++ [String.ofList n]) rest

/-- The names from the root to a path. -/
def namesTo (disk : Disk) (path : Path) : List String :=
  namesThrough [] (disk.absolute path).components

/-- The absolute path through names. -/
def pathThrough (names : List String) : Path :=
  ⟨"/" ++ "/".intercalate names⟩

/-- A path in absolute form, with every step to a parent taken. -/
def resolved (disk : Disk) (path : Path) : Path :=
  pathThrough (disk.namesTo path)

/-- The working directory, with every step to a parent taken. -/
def resolvedCwd (disk : Disk) : Path :=
  pathThrough (namesThrough [] disk.cwd.components)

/-- Whether the spelling of a path says that it is a directory. -/
def wantsDirectory (path : Path) : Bool :=
  match (Path.spell path.text.toList).2.getLast? with
  | some piece => Path.isIdle piece && !path.text.isEmpty
  | none => false

/-- **Looking a path up**. -/
def find (disk : Disk) (path : Path) : Except ReadFailure Entry := do
  if path.text.isEmpty then .error .notFound
  else
    let entry ← Entry.follow [] disk.root (disk.absolute path).components
    if wantsDirectory path && entry.isFile then .error .notADirectory else .ok entry

/-- Whether there is anything at a path. -/
def exists? (disk : Disk) (path : Path) : Bool :=
  match disk.find path with
  | .ok _ => true
  | .error _ => false

/-- Whether a path names a file. -/
def isFile (disk : Disk) (path : Path) : Bool :=
  match disk.find path with
  | .ok entry => entry.isFile
  | .error _ => false

/-- Whether a path names a directory. -/
def isDirectory (disk : Disk) (path : Path) : Bool :=
  match disk.find path with
  | .ok entry => entry.isDirectory
  | .error _ => false

/-- The names in a directory. -/
def list (disk : Disk) (path : Path) : List String :=
  match disk.find path with
  | .ok entry => entry.children.map Prod.fst
  | .error _ => []

/-- **Reading a text file**. -/
def readText (disk : Disk) (path : Path) : Except ReadFailure String := do
  match ← disk.find path with
  | .directory _ => .error .isADirectory
  | .file content =>
    match String.fromUTF8? content with
    | some text => .ok text
    | none => .error .notText

end Disk

end SuiteLint
