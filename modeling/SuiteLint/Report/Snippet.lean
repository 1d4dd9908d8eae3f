import SuiteLint.Report.Diagnostic
import SuiteLint.Text.Lines
import SuiteLint.Text.Wrap

/-!
# Source snippets

A diagnostic shown with the source line it is about, the lines before and after it, and marks under
the range that it covers.
-/

namespace SuiteLint.Snippet

/-- **Marks** under a range of `count` characters, with a bar in their middle. -/
def marks (count : Nat) : String :=
  String.ofList (List.replicate (count / 2) '^' ++ ['|'] ++
    List.replicate (count - count / 2 - 1) '^')

/-- The line numbers shown for a line: itself and its neighbours, as far as there are any. -/
def window (line total : Nat) : List Nat :=
  (if 1 < line then [line - 1] else []) ++ [line] ++ (if line < total then [line + 1] else [])

/-- A source line with its number. -/
def numbered (width : Nat) (lines : List String) (number : Nat) : String :=
  " " ++ Text.padLeft width (toString number) ++ " | " ++ (lines[number - 1]?).getD ""

/-- The number of characters to mark: those of the range on its first line, and at least one. -/
def markCount (line : String) (column length : Nat) : Nat :=
  max 1 (min length (line.length - (column - 1)))

/-- The width of a headline. -/
def headlineWidth : Nat := 194

/-- The headline of a diagnostic: a mark before its first line, and a bar before further ones. -/
def headlines (d : Diagnostic) : List String :=
  match Text.wrap headlineWidth d.headline with
  | [] => []
  | first :: more => ("  x " ++ first) :: more.map (fun line => "  | " ++ line)

/-- **Rendering** a diagnostic over the text of its file. -/
def render (d : Diagnostic) (source : String) : String :=
  let lines := Text.lines source
  let p := Text.positionAt source.toUTF8.data.toList d.location.offset
  let shown := window p.line lines.length
  let width := (toString (shown.getLast?.getD p.line)).length
  let margin := Text.blanks (width + 2)
  let count := markCount ((lines[p.line - 1]?).getD "") p.column d.location.length
  let under := margin ++ ": " ++ Text.blanks (p.column - 1)
  let body := shown.flatMap (fun number =>
    if number = p.line then
      [numbered width lines number, under ++ marks count,
       under ++ Text.blanks (count / 2) ++ "`-- " ++ d.rule]
    else [numbered width lines number])
  let place := d.location.file.text ++ ":" ++ toString p.line ++ ":" ++ toString p.column
  let help := match d.suggestion with
    | some text => ["  help: " ++ text]
    | none => []
  String.join ((headlines d ++ [margin ++ ",-[" ++ place ++ "]"] ++ body ++
    [margin ++ "`----"] ++ help).map (fun line => line ++ "\n"))

end SuiteLint.Snippet
