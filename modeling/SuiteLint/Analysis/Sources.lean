import SuiteLint.Analysis.Analyzer

/-!
# Collecting sources

Finds the files below the root of an analyzer by glob patterns, one per extension.  The root and the
extension are part of the pattern, and a pattern is followed through the directories component by
component.
-/

namespace SuiteLint

namespace Glob

/-! ### Patterns through directories -/

/-- The text of a pattern without wildcards. -/
def Pattern.literal? (pattern : Pattern) : Option (List Char) :=
  pattern.tokens.mapM (fun token => match token with
    | .char c => some c
    | _ => none)

/-- Whether a component is a recursive wildcard. -/
def Pattern.isRecursive (pattern : Pattern) : Bool :=
  pattern.tokens == [.anyComponents]

/-- The components of a pattern, each compiled by itself; a separator at the end begins none. -/
def components (text : List Char) : Except Error (List Pattern) := do
  let _ ← Pattern.compile text
  let pieces := match text with
    | '/' :: rest => rest.splitOn '/'
    | _ => text.splitOn '/'
  let pieces := if pieces.getLast? == some [] then pieces.dropLast else pieces
  pieces.mapM Pattern.compile

/-- The steps to the parent directory and to the directory itself that a component allows: those
that it matches, if it begins with a dot of its own. -/
def Pattern.steps (pattern : Pattern) : List String :=
  match pattern.tokens with
  | .char '.' :: _ => ["..", "."].filter (fun step => pattern.matchesAll step.toList)
  | _ => []

mutual

/-- The paths below `path` that the components lead to. -/
def expand (disk : Disk) : (fuel : Nat) → List Pattern → Path → List Path
  | 0, _, _ => []
  | _ + 1, [], path => [path]
  | fuel + 1, pattern :: patterns, path =>
    match pattern.literal? with
    | some name =>
      let next := path.join ⟨String.ofList name⟩
      if disk.exists? next then expand disk fuel patterns next else []
    | none =>
      let steps := if disk.isDirectory path then pattern.steps else []
      steps.flatMap (fun step => expand disk fuel patterns (path.join ⟨step⟩)) ++
        (disk.list path).flatMap (fun name =>
          if pattern.isRecursive then
            expandBelow disk fuel (pattern :: patterns) (path.join ⟨name⟩)
          else if pattern.matchesAll name.toList then
            expand disk fuel patterns (path.join ⟨name⟩)
          else [])

/-- The paths that components after recursive wildcards lead to, from an entry below them: the entry
may itself be the next component, or the wildcards go on below it.  Wildcards with nothing after
them lead to every directory. -/
def expandBelow (disk : Disk) : (fuel : Nat) → List Pattern → Path → List Path
  | 0, _, _ => []
  | fuel + 1, patterns, path =>
    let deeper := if disk.isDirectory path then expand disk fuel patterns path else []
    let here := match patterns.dropWhile Pattern.isRecursive, path.fileName? with
      | [], _ => if disk.isDirectory path then [path] else []
      | next :: rest, some name =>
        if next.matchesAll name then expand disk fuel rest path else []
      | _ :: _, none => []
    here ++ deeper

end

end Glob

/-- The number of steps that are enough to go through all directories of a disk. -/
def Entry.height : Entry → Nat
  | .file _ => 0
  | .directory entries => heights entries + 1
where
  /-- The greatest height among entries. -/
  heights : List (String × Entry) → Nat
    | [] => 0
    | (_, entry) :: rest => max entry.height (heights rest)

namespace Analyzer

/-- The paths that the pattern for one extension leads to; a separator at its end asks for
directories. -/
def sourcesFor (analyzer : Analyzer) (disk : Disk) (extension : String) :
    Except Glob.Error (List Path) := do
  let text := analyzer.root.text ++ "/**/*." ++ extension
  let patterns ← Glob.components text.toList
  let fuel := 2 * (disk.root.height + patterns.length) + 2
  let found := Glob.expand disk fuel patterns ⟨"/"⟩
  .ok (if text.toList.getLast? == some '/' then found.filter disk.isDirectory else found)

/-- **Collecting sources**: what the patterns lead to, without what is left out, in path order and
each path once. -/
def collectSources (analyzer : Analyzer) (disk : Disk) : Except AnalyzerError (List Path) :=
  match analyzer.config.analyzer.extensions.mapM (analyzer.sourcesFor disk) with
  | .error e => .error (.glob e)
  | .ok found =>
    let kept := found.flatten.filter (fun path => !analyzer.isExcluded path)
    let sorted := kept.mergeSort (fun a b => (a.compare b).isLE)
    .ok (dropRepeats sorted)
where
  /-- A sorted list without repeated neighbours. -/
  dropRepeats : List Path → List Path
    | [] => []
    | [a] => [a]
    | a :: b :: rest =>
      if a.compare b == .eq then dropRepeats (a :: rest) else a :: dropRepeats (b :: rest)

/-- **Analysing everything** below the root. -/
def analyze (analyzer : Analyzer) (disk : Disk) (parse : Parser) :
    Except AnalyzerError LintResult := do
  analyzer.analyzeFiles disk parse (← analyzer.collectSources disk)

end Analyzer

end SuiteLint
