import SuiteLint.Text.Pieces

/-!
# Paths

A path is kept as it was written, and read as a sequence of components.  Repeated separators, a
separator at the end and `.` components carry no meaning, except for a `.` at the very beginning;
two spellings with the same components name the same place and compare alike.
-/

namespace SuiteLint

/-- **Path**, as written. -/
structure Path where
  /-- The text of the path. -/
  text : String
  deriving DecidableEq, Repr

namespace Path

/-! ### Components -/

/-- What a path begins with. -/
inductive Anchor where
  /-- A separator: the path starts at the root. -/
  | root
  /-- A leading `.` component. -/
  | current
  /-- Anything else. -/
  | none
  deriving DecidableEq, Repr

/-- **Component** of a path. -/
inductive Component where
  /-- The root directory. -/
  | root
  /-- The leading `.`. -/
  | current
  /-- A `..`. -/
  | parent
  /-- A name. -/
  | name (text : List Char)
  deriving DecidableEq, Repr

/-- How a path begins, and the raw pieces between separators after that. -/
def spell (cs : List Char) : Anchor × List (List Char) :=
  match cs with
  | '/' :: rest => (.root, rest.splitOn '/')
  | _ =>
    match cs.splitOn '/' with
    | ['.'] :: rest => (.current, rest)
    | pieces => (.none, pieces)

/-- A raw piece without meaning: empty, or a single dot. -/
def isIdle (piece : List Char) : Bool :=
  piece.isEmpty || piece == ['.']

/-- The component that a raw piece stands for. -/
def componentOf (piece : List Char) : Option Component :=
  if isIdle piece then none
  else if piece = ['.', '.'] then some .parent
  else some (.name piece)

/-- The component that the beginning of a path stands for. -/
def Anchor.component : Anchor → Option Component
  | .root => some .root
  | .current => some .current
  | .none => Option.none

/-- **Components** of a path, from left to right. -/
def components (path : Path) : List Component :=
  let (anchor, pieces) := spell path.text.toList
  anchor.component.toList ++ pieces.filterMap componentOf

/-! ### Order -/

/-- The rank of a component among its kind: the root comes first, then the leading dot, then the
parent step, then names. -/
def Component.rank : Component → Nat
  | .root => 0
  | .current => 1
  | .parent => 2
  | .name _ => 3

/-- Order of two character lists, by code point; this is the order of their UTF-8 bytes. -/
def compareChars : List Char → List Char → Ordering
  | [], [] => .eq
  | [], _ :: _ => .lt
  | _ :: _, [] => .gt
  | a :: as, b :: bs => (compare a.toNat b.toNat).then (compareChars as bs)

/-- Order of two components: by rank, names by their characters. -/
def Component.compare (a b : Component) : Ordering :=
  match a, b with
  | .name s, .name t => compareChars s t
  | _, _ => Ord.compare a.rank b.rank

/-- Order of two component lists: lexicographic, a shorter list before its extensions. -/
def compareComponents : List Component → List Component → Ordering
  | [], [] => .eq
  | [], _ :: _ => .lt
  | _ :: _, [] => .gt
  | a :: as, b :: bs => (a.compare b).then (compareComponents as bs)

/-- **Order of paths**, by components. -/
def compare (a b : Path) : Ordering :=
  compareComponents a.components b.components

/-! ### Putting paths together and taking them apart -/

/-- Whether a path starts at the root. -/
def isAbsolute (path : Path) : Bool :=
  path.text.toList.head? == some '/'

/-- **Joining**: the second path below the first one; an absolute path replaces what is before. -/
def join (base rest : Path) : Path :=
  if rest.isAbsolute || base.text.isEmpty then rest
  else if base.text.toList.getLast? == some '/' then ⟨base.text ++ rest.text⟩
  else ⟨base.text ++ "/" ++ rest.text⟩

/-- Raw pieces with the idle ones at the end taken away. -/
def trimIdleEnd (pieces : List (List Char)) : List (List Char) :=
  (pieces.reverse.dropWhile isIdle).reverse

/-- The path with a given beginning and raw pieces. -/
def assemble (anchor : Anchor) (pieces : List (List Char)) : Path :=
  let body := ['/'].intercalate pieces
  match anchor with
  | .root => ⟨String.ofList ('/' :: body)⟩
  | .none => ⟨String.ofList body⟩
  | .current => if pieces.isEmpty then ⟨"."⟩ else ⟨String.ofList ('.' :: '/' :: body)⟩

/-- **Parent** of a path: the path without its last component.  The root and the empty path have
none; a single component has the empty path as its parent. -/
def parent? (path : Path) : Option Path :=
  let (anchor, pieces) := spell path.text.toList
  match trimIdleEnd pieces with
  | [] =>
    match anchor with
    | .current => some ⟨""⟩
    | _ => none
  | body@(_ :: _) => some (assemble anchor (trimIdleEnd body.dropLast))

/-- The path and its parents, from the inside out; at most `steps` of them. -/
def ancestorsUpTo : Nat → Path → List Path
  | 0, _ => []
  | steps + 1, path =>
    path :: (match path.parent? with
      | some above => ancestorsUpTo steps above
      | none => [])

/-- **Ancestors** of a path: itself, its parent, and so on.  A path has fewer components than
characters, so its length bounds their number. -/
def ancestors (path : Path) : List Path :=
  ancestorsUpTo (path.text.length + 1) path

/-- Drops from `pieces` those that spell the components `expected`; what is left starts right after
the last of them. -/
def dropComponents : List Component → List (List Char) → Option (List (List Char))
  | [], pieces => some pieces
  | _ :: _, [] => none
  | e :: expected, piece :: pieces =>
    match componentOf piece with
    | none => dropComponents (e :: expected) pieces
    | some c => if c = e then dropComponents expected pieces else none

/-- **Relative path**: what is left of `path` below `base`, as written, when the components of
`base` are the first ones of `path`. -/
def below? (base path : Path) : Option Path :=
  let (anchor, pieces) := spell path.text.toList
  match base.components with
  | [] => some (assemble anchor (trimIdleEnd pieces))
  | first :: rest =>
    let remaining := match anchor.component with
      | some c => if c = first then dropComponents rest pieces else none
      | none => dropComponents (first :: rest) pieces
    remaining.map (fun left => assemble .none (trimIdleEnd (left.dropWhile isIdle)))

/-- The name at the end of a path, unless it ends in a step such as `..`. -/
def fileName? (path : Path) : Option (List Char) :=
  match path.components.getLast? with
  | some (.name n) => some n
  | _ => none

/-- **Extension**: what follows the last dot of the file name, unless the name starts with that
dot. -/
def extension? (path : Path) : Option (List Char) :=
  match path.fileName? with
  | none => none
  | some name =>
    let tail := name.reverse.takeWhile (fun c => c != '.')
    match name.reverse.drop (tail.length + 1) with
    | [] => none
    | _ :: _ => some tail.reverse

end Path

end SuiteLint
