import SuiteLint.Text.Lines
import SuiteLint.Text.Pieces

/-!
# Allow directives

A comment can allow what a rule would report, on its own line or on the next one:

    // treelint: allow(no-side-effect-code) reason="fixture is immutable"

`all` stands for every rule.  A directive is looked for in the text of a line, after any `//` in
it; `Directive.parse?` reads a line.
-/

namespace SuiteLint

/-- **Directive**: the rules that a comment allows, and the reason it gives. -/
structure Directive where
  /-- The names listed, at least one. -/
  rules : List (List Char)
  /-- The text after `reason=`, between quotes. -/
  reason : Option (List Char)
  deriving DecidableEq, Repr

namespace Directive

/-! ### Reading -/

/-- The word that marks a comment as a directive. -/
def marker : List Char := "treelint:".toList

/-- The word before the list of names. -/
def verb : List Char := "allow(".toList

/-- The word before a reason. -/
def reasonMark : List Char := "reason=".toList

/-- What follows each `//` of a line; a pair of slashes is used once. -/
def comments : List Char → List (List Char)
  | [] => []
  | [_] => []
  | a :: b :: rest =>
    if a = '/' ∧ b = '/' then rest :: comments rest else comments (b :: rest)

/-- The text of a comment: more slashes and the blanks around it do not count. -/
def commentText (comment : List Char) : List Char :=
  Text.trim (comment.dropWhile (fun c => c == '/'))

/-- What follows the marker in the first comment of a line that has it. -/
def body? (line : List Char) : Option (List Char) :=
  (comments line).findSome? (fun comment => Text.after? marker (commentText comment))

/-- The reason given after the list of names, if it is properly quoted. -/
def reason? (rest : List Char) : Option (List Char) := do
  let quoted ← Text.after? reasonMark (Text.trim rest)
  let inside ← Text.after? ['"'] (Text.trim quoted)
  let (text, _) ← Text.cutAt? '"' inside
  some text

/-- **Reading a line**: the directive it carries. -/
def parse? (line : List Char) : Option Directive := do
  let body ← body? line
  let inside ← Text.after? verb (Text.trimStart body)
  let (names, rest) ← Text.cutAt? ')' inside
  let rules := Text.commaList names
  if rules.isEmpty then none else some { rules := rules, reason := reason? rest }

/-- Whether a directive speaks about a rule. -/
def covers (d : Directive) (rule : List Char) : Bool :=
  d.rules.any (fun name => name == rule || name == ['a', 'l', 'l'])

end Directive

/-! ### Looking up a line -/

/-- **Allowance**: whether a finding is allowed, and for what reason. -/
inductive Allowance where
  /-- No directive covers the finding. -/
  | denied
  /-- A directive covers it. -/
  | allowed (reason : Option String)
  deriving DecidableEq, Repr

namespace Allowance

/-- Whether the finding is allowed. -/
def isAllowed : Allowance → Bool
  | denied => false
  | allowed _ => true

/-- The reason, if one was given. -/
def reason : Allowance → Option String
  | denied => none
  | allowed reason => reason

/-- The directive on line `line`, counted from one, that covers `rule`. -/
def onLine? (lines : List String) (line : Nat) (rule : String) : Option Directive :=
  match line with
  | 0 => none
  | index + 1 => do
    let text ← lines[index]?
    let d ← Directive.parse? text.toList
    if d.covers rule.toList then some d else none

/-- **Allowance for a line**: the line above is looked at first, then the line itself. -/
def check (content : String) (line : Nat) (rule : String) : Allowance :=
  let lines := Text.lines content
  match (onLine? lines (line - 1) rule).or (onLine? lines line rule) with
  | some d => .allowed (d.reason.map String.ofList)
  | none => .denied

end Allowance

end SuiteLint
