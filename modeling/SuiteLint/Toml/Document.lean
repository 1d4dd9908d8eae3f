import SuiteLint.Toml.Scalar

/-!
# Reading documents

A document is a sequence of lines: keys with values, and headers that say which table the lines
after them belong to.  While a document is read, a table remembers how it came about, because a
table may be opened by a header only once, and dotted keys may extend only tables that dotted keys
made.
-/

namespace SuiteLint.Toml

/-! ### Values -/

/-- An entry of a table under construction. -/
inductive Item where
  /-- A finished value. -/
  | value (v : Value)
  /-- A table: whether no header has opened it yet, whether dotted keys made it, its entries. -/
  | table (implicit dotted : Bool) (entries : List (String × Item))
  /-- An array of tables, each with its entries, the last one first. -/
  | tables (elements : List (List (String × Item)))

/-- The entries of a table under construction, in the order they were made. -/
abbrev Entries := List (String × Item)

/-- Puts a new item under a key that is already there. -/
def Entries.replace (key : String) (item : Item) : Entries → Entries
  | [] => []
  | (k, old) :: rest =>
    if k = key then (k, item) :: rest else (k, old) :: Entries.replace key item rest

/-- **Following a path** of keys through tables, making those that are missing, and changing the
table at its end.  The change is told whether that table was made by dotted keys. -/
def descend (dotted : Bool) (change : Bool → Entries → Except Error Entries) :
    List String → (here : Bool) → Entries → Except Error Entries
  | [], here, entries => change here entries
  | key :: path, _, entries =>
    match entries.lookup key with
    | none => do
      let child ← descend dotted change path dotted []
      .ok (entries ++ [(key, .table true dotted child)])
    | some (.value _) => .error (.notATable key)
    | some (.tables []) => .error (.notATable key)
    | some (.tables (last :: earlier)) => do
      let last ← descend dotted change path false last
      .ok (Entries.replace key (.tables (last :: earlier)) entries)
    | some (.table isImplicit wasDotted child) =>
      if dotted && !isImplicit then .error (.duplicateKey key)
      else do
        let child ← descend dotted change path wasDotted child
        .ok (Entries.replace key (.table isImplicit wasDotted child) entries)

/-- **Storing a value** under a dotted key.  The table that receives it must have been made by
dotted keys exactly if the key has more than one part. -/
def store (key : List String) (v : Value) (entries : Entries) : Except Error Entries :=
  match key.getLast? with
  | none => .error .expectedKey
  | some name =>
    let path := key.dropLast
    descend true (fun isDotted table =>
      if isDotted == path.isEmpty then .error (.duplicateKey name)
      else if (table.lookup name).isSome then .error (.duplicateKey name)
      else .ok (table ++ [(name, .value v)])) path false entries

mutual

/-- The value that an item stands for. -/
def Item.finish : Item → Value
  | .value v => v
  | .table _ _ entries => .table (finishEntries entries)
  | .tables elements => .array (finishTables elements).reverse

/-- The entries of a finished table. -/
def finishEntries : Entries → List (String × Value)
  | [] => []
  | (key, item) :: rest => (key, item.finish) :: finishEntries rest

/-- The tables of a finished array of tables, the last one first. -/
def finishTables : List Entries → List Value
  | [] => []
  | entries :: rest => .table (finishEntries entries) :: finishTables rest

end

mutual

/-- Reads a value; `fuel` bounds the nesting, `depth` counts it. -/
def readValue : (fuel depth : Nat) → List Char → Except Error (Value × List Char)
  | 0, _, _ => .error .nestedTooDeep
  | fuel + 1, depth, cs =>
    match cs with
    | '[' :: rest =>
      if depthLimit ≤ depth + 1 then .error .nestedTooDeep
      else readArray fuel (depth + 1) [] rest
    | '\x7b' :: rest =>
      if depthLimit ≤ depth + 1 then .error .nestedTooDeep
      else
        match skipSpaces rest with
        | '\x7d' :: rest => .ok (.table [], rest)
        | rest => readInline fuel (depth + 1) [] rest
    | '"' :: _ | '\'' :: _ => do
      let (text, rest) ← readString cs
      .ok (.string text, rest)
    | 't' :: 'r' :: 'u' :: 'e' :: rest => .ok (.boolean true, rest)
    | 'f' :: 'a' :: 'l' :: 's' :: 'e' :: rest => .ok (.boolean false, rest)
    | _ =>
      match readDatetime? cs with
      | some (d, rest) => .ok (.datetime d, rest)
      | none => readNumber cs

/-- Reads the items of an array after its opening bracket. -/
def readArray : (fuel depth : Nat) → (taken : List Value) → List Char →
    Except Error (Value × List Char)
  | 0, _, _, _ => .error .unclosedArray
  | fuel + 1, depth, taken, cs =>
    match skipLines (cs.length + 1) cs with
    | [] => .error .unclosedArray
    | ']' :: rest => .ok (.array taken.reverse, rest)
    | rest => do
      let (v, rest) ← readValue fuel depth rest
      match skipLines (rest.length + 1) rest with
      | ',' :: rest => readArray fuel depth (v :: taken) rest
      | ']' :: rest => .ok (.array (v :: taken).reverse, rest)
      | _ => .error .unclosedArray

/-- Reads the entries of an inline table; there is at least one. -/
def readInline : (fuel depth : Nat) → Entries → List Char → Except Error (Value × List Char)
  | 0, _, _, _ => .error .unclosedTable
  | fuel + 1, depth, entries, cs => do
    let (key, rest) ← readKey cs
    match skipSpaces rest with
    | '=' :: rest => do
      let (v, rest) ← readValue fuel depth (skipSpaces rest)
      let entries ← store key v entries
      match skipSpaces rest with
      | ',' :: rest => readInline fuel depth entries rest
      | '\x7d' :: rest => .ok (.table (finishEntries entries), rest)
      | _ => .error .unclosedTable
    | _ => .error .missingEquals

end

/-! ### Documents -/

/-- A document while it is read. -/
structure Draft where
  /-- What the finished tables hold. -/
  root : Entries := []
  /-- The table being filled. -/
  current : Entries := []
  /-- Where it belongs; the empty path is the root. -/
  path : List String := []
  /-- Whether it is a new element of an array of tables. -/
  isElement : Bool := false

/-- Puts the current table in its place. -/
def Draft.settle (draft : Draft) : Except Error Entries :=
  match draft.path.getLast? with
  | none => .ok draft.current
  | some name =>
    descend false (fun _ table =>
      match table.lookup name, draft.isElement with
      | none, true => .ok (table ++ [(name, .tables [draft.current])])
      | some (.tables elements), true =>
        .ok (Entries.replace name (.tables (draft.current :: elements)) table)
      | none, false => .ok (table ++ [(name, .table false false draft.current)])
      | some (.table true _ _), false =>
        .ok (Entries.replace name (.table false false draft.current) table)
      | _, _ => .error (.duplicateKey name)) draft.path.dropLast false draft.root

/-- What a table holds when a header opens it: it is new, or came about by headers below it. -/
def reopened (name : String) (table : Entries) : Except Error Entries :=
  match table.lookup name with
  | none => .ok []
  | some (.table true false entries) => .ok entries
  | _ => .error (.duplicateKey name)

/-- The entries at the end of a path, as `descend` finds them. -/
def entriesAt : List String → Entries → Entries
  | [], entries => entries
  | key :: path, entries =>
    match entries.lookup key with
    | some (.table _ _ child) => entriesAt path child
    | some (.tables (last :: _)) => entriesAt path last
    | _ => []

/-- **Opening a table** by its header. -/
def Draft.openTable (draft : Draft) (path : List String) : Except Error Draft :=
  match path.getLast? with
  | none => .error .expectedKey
  | some name => do
    let root ← draft.settle
    let root ← descend false (fun _ table => do
      let _ ← reopened name table
      .ok table) path.dropLast false root
    let current ← reopened name (entriesAt path.dropLast root)
    .ok { root := root, current := current, path := path, isElement := false }

/-- **Opening an element** of an array of tables by its header. -/
def Draft.openElement (draft : Draft) (path : List String) : Except Error Draft :=
  match path.getLast? with
  | none => .error .expectedKey
  | some name => do
    let root ← draft.settle
    let root ← descend false (fun _ table =>
      match table.lookup name with
      | none | some (.tables _) => .ok table
      | _ => .error (.duplicateKey name)) path.dropLast false root
    .ok { root := root, current := [], path := path, isElement := true }

/-- Reads one line that holds something. -/
def readLine (draft : Draft) (cs : List Char) : Except Error (Draft × List Char) :=
  match cs with
  | '[' :: '[' :: rest => do
    let (path, rest) ← readKey rest
    match rest with
    | ']' :: ']' :: rest => .ok (← draft.openElement path, ← endLine rest)
    | _ => .error .unclosedHeader
  | '[' :: rest => do
    let (path, rest) ← readKey rest
    match rest with
    | ']' :: rest => .ok (← draft.openTable path, ← endLine rest)
    | _ => .error .unclosedHeader
  | _ => do
    let (key, rest) ← readKey cs
    match rest with
    | '=' :: rest => do
      let rest := skipSpaces rest
      let (v, rest) ← readValue (2 * rest.length + 2) 0 rest
      let current ← store key v draft.current
      .ok ({ draft with current := current }, ← endLine rest)
    | _ => .error .missingEquals

/-- Reads lines to the end of the document; `fuel` bounds their number. -/
def readLines : (fuel : Nat) → Draft → List Char → Except Error Entries
  | 0, draft, _ => draft.settle
  | fuel + 1, draft, cs =>
    match skipLines (cs.length + 1) cs with
    | [] => draft.settle
    | rest => do
      let (draft, rest) ← readLine draft (skipSpaces rest)
      readLines fuel draft rest

/-- **Reading a document**: the entries of its root table. -/
def parse (text : String) : Except Error (List (String × Value)) := do
  let cs := match text.toList with
    | c :: rest => if c.toNat = 0xFEFF then rest else c :: rest
    | [] => []
  .ok (finishEntries (← readLines (cs.length + 1) {} cs))

end SuiteLint.Toml
