/-!
# Physical lines

A text has two views as lines.  `lines` lists what stands on each line; `lineStarts` lists the byte
offset at which each line begins.  Both number the lines alike, from the top: the text of line `k`
is the piece that starts at the `k`-th line start.
-/

namespace SuiteLint.Text

/-! ### Line texts -/

/-- A line without the carriage return that its line break may begin with. -/
def dropReturn (line : List Char) : List Char :=
  match line.getLast? with
  | some '\r' => line.dropLast
  | _ => line

/-- **Lines of a character list**: the pieces between line feeds.  A carriage return right before a
line feed belongs to the break; a line feed at the very end opens no further line. -/
def linesOf (cs : List Char) : List (List Char) :=
  let pieces := cs.splitOn '\n'
  let last := pieces.getLast?.getD []
  pieces.dropLast.map dropReturn ++ (if last.isEmpty then [] else [last])

/-- The texts of the physical lines of `text`. -/
def lines (text : String) : List String :=
  (linesOf text.toList).map String.ofList

/-! ### Line starts -/

/-- The offsets right after each line feed of `bytes`, the first byte standing at `offset`. -/
def breaksFrom : Nat → List UInt8 → List Nat
  | _, [] => []
  | offset, b :: rest =>
    if b = 10 then (offset + 1) :: breaksFrom (offset + 1) rest else breaksFrom (offset + 1) rest

/-- **Line starts**: offset zero, and every offset right after a line feed. -/
def lineStarts (bytes : List UInt8) : List Nat :=
  0 :: breaksFrom 0 bytes

/-- A place in a text as people count it: line and column, both from one, the column in bytes. -/
structure Position where
  /-- Line number, from one. -/
  line : Nat
  /-- Column number in bytes, from one. -/
  column : Nat
  deriving DecidableEq, Repr

/-- **Position of a byte offset**: the last line that starts no later than the offset, and the
distance to that start.  An offset past the end counts as the end. -/
def positionAt (bytes : List UInt8) (offset : Nat) : Position :=
  let offset := min offset bytes.length
  let before := (lineStarts bytes).takeWhile (fun start => start ≤ offset)
  { line := before.length, column := offset - before.getLast?.getD 0 + 1 }

end SuiteLint.Text
