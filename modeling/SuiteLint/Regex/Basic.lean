/-!
# Regular expressions

What the rules ask of regular expressions: to match somewhere in a text.  Where they come from is
left open.  A `Regex.Compiler` turns patterns into regular expressions or refuses them, and what is
set up from patterns takes the compiler as an argument.
-/

namespace SuiteLint

/-- **Regular expression**, given by the texts that it matches. -/
structure Regex where
  /-- Whether it matches somewhere in a text. -/
  isMatch : String → Bool

/-- **Compiler** of patterns: the regular expression of a pattern, or the wording of its refusal. -/
abbrev Regex.Compiler := String → Except String Regex

end SuiteLint
