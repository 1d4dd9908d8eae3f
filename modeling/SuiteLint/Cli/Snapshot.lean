import SuiteLint.Analysis.Analyzer
import SuiteLint.Tree.Rows

/-!
# Snapshots as text

The files that a run can see, and the syntax trees that a parser made of them, as one stream of
records.  A record begins with a line that says what it is; paths stand at the end of that line, so
that they may hold blanks.

    cwd PATH
    directory PATH
    file LENGTH PATH          followed by LENGTH bytes and a line feed
    tree clean COUNT PATH     followed by COUNT rows; `broken` in place of `clean` after errors

A row is a line `DEPTH START STOP NAMED FIELD LABEL`, with `1` or `0` for NAMED and a hyphen for an
absent FIELD.  Paths are absolute, and a tree follows the file that it belongs to.
-/

namespace SuiteLint.Cli

open SuiteLint.Tree (Dialect Row SyntaxTree)

/-- **Snapshot**: files and trees. -/
structure Snapshot where
  /-- The files. -/
  disk : Disk := { root := .directory [], cwd := ⟨"/"⟩ }
  /-- The trees known. -/
  trees : List SyntaxTree := []

/-! ### Pieces of a record -/

/-- The first line, as text, and what follows it. -/
def takeLine (bytes : List UInt8) : Option (List Char × List UInt8) :=
  let line := bytes.takeWhile (fun b => b != 10)
  (String.fromUTF8? ⟨line.toArray⟩).map (fun text => (text.toList, bytes.drop (line.length + 1)))

/-- The first `count` words of a line, and what follows the blank after the last of them. -/
def takeWords : (count : Nat) → List Char → Option (List (List Char) × List Char)
  | 0, line => some ([], line)
  | count + 1, line => do
    let (word, rest) ← Text.cutAt? ' ' line
    let (words, rest) ← takeWords count rest
    some (word :: words, rest)

/-- A number in decimal digits. -/
def naturalOf? (digits : List Char) : Option Nat :=
  if digits.isEmpty || !digits.all Char.isDigit then none
  else some (digits.foldl (fun n c => 10 * n + (c.toNat - 48)) 0)

/-- One row of a tree. -/
def rowOf? (line : List Char) : Option Row := do
  match ← takeWords 5 line with
  | ([depth, start, stop, named, field], label) =>
    some
      { depth := ← naturalOf? depth, label := String.ofList label, start := ← naturalOf? start
        stop := ← naturalOf? stop, named := named == ['1']
        field := if field = ['-'] then none else some (String.ofList field) }
  | _ => none

/-- The first `count` lines as rows, and what follows them. -/
def takeRows : (count : Nat) → List UInt8 → Option (List Row × List UInt8)
  | 0, bytes => some ([], bytes)
  | count + 1, bytes => do
    let (line, bytes) ← takeLine bytes
    let row ← rowOf? line
    let (rows, bytes) ← takeRows count bytes
    some (row :: rows, bytes)

/-! ### Records -/

/-- The names that lead from the root to a path. -/
def namesOf (path : Path) : List String :=
  path.components.filterMap (fun component => match component with
    | .name n => some (String.ofList n)
    | _ => none)

/-- Puts an entry at a path. -/
def Snapshot.put (snapshot : Snapshot) (path : Path) (entry : Entry) : Snapshot :=
  let root := Entry.put entry (namesOf path) snapshot.disk.root
  { snapshot with disk := { snapshot.disk with root := root } }

/-- Reads one record, whose first line is `line`. -/
def readRecord (snapshot : Snapshot) (line : List Char) (bytes : List UInt8) :
    Option (Snapshot × List UInt8) := do
  let (word, rest) ← Text.cutAt? ' ' line
  match String.ofList word with
  | "cwd" =>
    some ({ snapshot with disk := { snapshot.disk with cwd := ⟨String.ofList rest⟩ } }, bytes)
  | "directory" => some (snapshot.put ⟨String.ofList rest⟩ (.directory []), bytes)
  | "file" =>
    let (length, path) ← Text.cutAt? ' ' rest
    let size ← naturalOf? length
    let content : ByteArray := ⟨(bytes.take size).toArray⟩
    some (snapshot.put ⟨String.ofList path⟩ (.file content), bytes.drop (size + 1))
  | "tree" =>
    match ← takeWords 2 rest with
    | ([status, count], text) =>
      let path : Path := ⟨String.ofList text⟩
      let source ← (snapshot.disk.readText path).toOption
      let (rows, bytes) ← takeRows (← naturalOf? count) bytes
      let tree : SyntaxTree :=
        { source := source, root := ← Tree.ofRows source rows
          hasErrors := status == "broken".toList, dialect := Dialect.ofPath path }
      some ({ snapshot with trees := tree :: snapshot.trees }, bytes)
    | _ => none
  | _ => none

/-- Reads records to the end; each takes a byte at least, so their number bounds the steps. -/
def readRecords : (fuel : Nat) → Snapshot → List UInt8 → Option Snapshot
  | 0, _, _ => none
  | _ + 1, snapshot, [] => some snapshot
  | fuel + 1, snapshot, bytes => do
    let (line, rest) ← takeLine bytes
    let (snapshot, rest) ← readRecord snapshot line rest
    readRecords fuel snapshot rest

namespace Snapshot

/-- **Reading a snapshot**. -/
def read (bytes : List UInt8) : Option Snapshot :=
  readRecords (bytes.length + 1) {} bytes

/-- The parser that knows the trees of a snapshot; for any other text it gives an empty tree. -/
def parser (snapshot : Snapshot) : Parser := fun dialect source =>
  match snapshot.trees.find? (fun tree => tree.dialect == dialect && tree.source == source) with
  | some tree => tree
  | none =>
    { source := source, hasErrors := false, dialect := dialect
      root := { label := "program", start := 0, stop := 0, named := true, field := none
                text := "", children := [] } }

end Snapshot

end SuiteLint.Cli
