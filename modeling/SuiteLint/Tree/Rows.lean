import SuiteLint.Tree.Node

/-!
# Trees from rows

A parser hands a tree over as a flat list of rows in preorder, each with its depth.  The rows are
put together from the last to the first: when a row is reached, everything deeper that directly
follows it has already been assembled, and is its children.
-/

namespace SuiteLint.Tree

/-- One node of a tree in preorder. -/
structure Row where
  /-- Distance from the root. -/
  depth : Nat
  /-- The grammar's label. -/
  label : String
  /-- Byte offset of the first byte. -/
  start : Nat
  /-- Byte offset one past the last byte. -/
  stop : Nat
  /-- Whether this is a construct of the grammar. -/
  named : Bool
  /-- The field of the parent that holds the node. -/
  field : Option String

/-- **Slice of a source text** by byte offsets; empty when the range is reversed, reaches past the
end, or cuts through a character. -/
def slice (source : ByteArray) (start stop : Nat) : String :=
  if start ≤ stop ∧ stop ≤ source.size then
    (String.fromUTF8? (source.extract start stop)).getD ""
  else ""

/-- Puts one row in front of the trees that follow it: those deeper than the row become its
children. -/
def Row.plant (source : ByteArray) (row : Row) (forest : List (Nat × Node)) :
    List (Nat × Node) :=
  let below := forest.takeWhile (fun (depth, _) => row.depth < depth)
  let rest := forest.dropWhile (fun (depth, _) => row.depth < depth)
  let node : Node :=
    { label := row.label, start := row.start, stop := row.stop, named := row.named
      field := row.field, text := slice source row.start row.stop
      children := below.map Prod.snd }
  (row.depth, node) :: rest

/-- **Tree of a list of rows**: the first tree they describe, if there is a row at all. -/
def ofRows (source : String) (rows : List Row) : Option Node :=
  let bytes := source.toUTF8
  ((rows.foldr (Row.plant bytes) []).head?).map Prod.snd

end SuiteLint.Tree
