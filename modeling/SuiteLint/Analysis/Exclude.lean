import SuiteLint.Glob.Pattern

/-!
# Exclude patterns

A pattern excludes the paths that it matches as a glob.  A pattern without wildcards other than `**`
also excludes every path that contains the rest of its text.
-/

namespace SuiteLint

/-- **Exclude pattern**. -/
structure ExcludePattern where
  /-- The glob. -/
  glob : Glob.Pattern
  /-- The text to look for inside paths. -/
  segment : Option (List Char)
  deriving DecidableEq, Repr

namespace ExcludePattern

/-- The text to look for: the pattern without any `**`, if it is longer than two bytes and holds no
other wildcard. -/
def segmentOf (pattern : List Char) : Option (List Char) :=
  let rest := Text.erasePairs '*' pattern
  if 2 < Text.byteLength rest && !rest.any (fun c => c == '*' || c == '?' || c == '[') then
    some rest
  else none

/-- **Compiling** an exclude pattern. -/
def compile (pattern : String) : Except Glob.Error ExcludePattern := do
  let glob ← Glob.Pattern.compile pattern.toList
  .ok { glob := glob, segment := segmentOf pattern.toList }

/-- Whether a pattern excludes a path. -/
def excludes (pattern : ExcludePattern) (path : List Char) : Bool :=
  pattern.glob.matchesAll path ||
    pattern.segment.any (fun segment => Text.occursIn segment path)

end ExcludePattern

end SuiteLint
