import SuiteLint.Tree.Node

/-!
# Faults

What can go wrong while one node is looked at.  A fault never ends a walk: it is noted, and the walk
goes on with the next sibling.
-/

namespace SuiteLint.Walk

open SuiteLint.Tree (Node)

/-- **Fault** met at a node. -/
inductive Fault where
  /-- A field that the handler needs is absent. -/
  | missingField (label field : String) (offset : Nat)
  /-- The node is not as the handler expects it. -/
  | malformed (label : String) (offset : Nat) (reason : String)
  /-- The node is nested deeper than the limit. -/
  | tooDeep (label : String) (offset limit : Nat)
  deriving DecidableEq, Repr

namespace Fault

/-- The wording of a fault. -/
def message : Fault → String
  | missingField label field offset =>
    "`" ++ label ++ "` node at byte " ++ toString offset ++ " has no `" ++ field ++ "` field"
  | malformed label offset reason =>
    "unexpected `" ++ label ++ "` node at byte " ++ toString offset ++ ": " ++ reason
  | tooDeep label offset limit =>
    "`" ++ label ++ "` node at byte " ++ toString offset ++ " is nested deeper than " ++
      toString limit

/-- The fault of a node without the field `name`. -/
def noField (node : Node) (name : String) : Fault :=
  .missingField node.label name node.start

end Fault

/-- The child held under a field name, or the fault that there is none. -/
def requireField (node : Node) (name : String) : Except Fault Node :=
  match node.field? name with
  | some child => .ok child
  | none => .error (.noField node name)

end SuiteLint.Walk
