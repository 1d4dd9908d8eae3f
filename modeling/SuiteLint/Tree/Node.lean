import SuiteLint.Tree.Kind

/-!
# Syntax nodes

A syntax tree is given from outside, by a parser.  A node carries its label, its byte range, the
source text in that range, whether it is a construct of the grammar or a bare token, and the name
of the field under which its parent holds it.  The checks look at a tree only through the views
defined here: the named children, the field lookup and the token test.
-/

namespace SuiteLint.Tree

/-! ### Nodes -/

/-- **Node** of a syntax tree. -/
structure Node where
  /-- The grammar's label. -/
  label : String
  /-- Byte offset of the first byte. -/
  start : Nat
  /-- Byte offset one past the last byte. -/
  stop : Nat
  /-- Whether this is a construct of the grammar, not a bare token. -/
  named : Bool
  /-- The field of the parent that holds this node. -/
  field : Option String
  /-- The source text from `start` to `stop`. -/
  text : String
  /-- All children, tokens and comments included, in source order. -/
  children : List Node

namespace Node

/-- The kind behind the label. -/
def kind (node : Node) : Kind :=
  Kind.ofLabel node.label

/-- The number of bytes the node covers. -/
def width (node : Node) : Nat :=
  node.stop - node.start

/-! ### Views -/

/-- **Named children**: the constructs below a node in source order, comments left out. -/
def namedChildren (node : Node) : List Node :=
  node.children.filter (fun child => child.named && child.kind != .comment)

/-- The child held under a field name. -/
def field? (node : Node) (name : String) : Option Node :=
  node.children.find? (fun child => child.field == some name)

/-- The first named child of a kind. -/
def childOfKind? (node : Node) (kind : Kind) : Option Node :=
  node.namedChildren.find? (fun child => child.kind == kind)

/-- A label up to its first space; tokens may carry a remark after it. -/
def tokenOf (label : String) : String :=
  String.ofList (label.toList.takeWhile (fun c => c != ' '))

/-- Whether a bare token such as `static` is a direct child. -/
def hasToken (node : Node) (token : String) : Bool :=
  node.children.any (fun child => !child.named && tokenOf child.label == token)

end Node

/-! ### Whole trees -/

/-- The grammar variant of a source file. -/
inductive Dialect where
  /-- Types only. -/
  | typescript
  /-- Types and embedded markup. -/
  | tsx
  deriving DecidableEq, Repr

/-- The name by which a dialect is shown. -/
def Dialect.name : Dialect → String
  | .typescript => "typescript"
  | .tsx => "tsx"

/-- **Syntax tree** of one source text. -/
structure SyntaxTree where
  /-- The text that was parsed. -/
  source : String
  /-- The root node. -/
  root : Node
  /-- Whether the parser had to recover from errors. -/
  hasErrors : Bool
  /-- The grammar variant. -/
  dialect : Dialect

/-- A one-line description of a tree. -/
def SyntaxTree.describe (tree : SyntaxTree) : String :=
  let dialect := match tree.dialect with
    | .typescript => "TypeScript"
    | .tsx => "Tsx"
  "SyntaxTree \x7b dialect: " ++ dialect ++ ", len: " ++ toString tree.source.utf8ByteSize ++
    ", has_errors: " ++ (if tree.hasErrors then "true" else "false") ++ " \x7d"

end SuiteLint.Tree
