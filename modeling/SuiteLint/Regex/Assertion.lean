import SuiteLint.Unicode.CharSet

/-!
# Assertions

Conditions on a position in a text, in terms of the characters on either side of it.
-/

namespace SuiteLint.Regex

open Unicode

/-- **Assertion** about a position, which consumes nothing. -/
inductive Assertion where
  /-- The beginning of the text. -/
  | textStart
  /-- The end of the text. -/
  | textEnd
  /-- The beginning of a line. -/
  | lineStart
  /-- The end of a line. -/
  | lineEnd
  /-- The beginning of a line, where a carriage return may break lines too. -/
  | lineStartCr
  /-- The end of a line, where a carriage return may break lines too. -/
  | lineEndCr
  /-- One side is a word character and the other is not. -/
  | boundary (ws : CharSet)
  /-- Both sides are word characters, or neither is. -/
  | noBoundary (ws : CharSet)
  /-- A word begins here. -/
  | wordStart (ws : CharSet)
  /-- A word ends here. -/
  | wordEnd (ws : CharSet)
  /-- No word character stands before. -/
  | wordStartHalf (ws : CharSet)
  /-- No word character stands after. -/
  | wordEndHalf (ws : CharSet)

/-- Whether an assertion holds between the characters `before` and `after`. -/
def Assertion.holds (before after : Option Char) : Assertion → Bool
  | textStart => before.isNone
  | textEnd => after.isNone
  | lineStart => before.isNone || before == some '\n'
  | lineEnd => after.isNone || after == some '\n'
  | lineStartCr =>
    before.isNone || before == some '\n' || (before == some '\r' && after != some '\n')
  | lineEndCr =>
    after.isNone || after == some '\r' || (after == some '\n' && before != some '\r')
  | boundary ws => before.any ws.has != after.any ws.has
  | noBoundary ws => before.any ws.has == after.any ws.has
  | wordStart ws => !before.any ws.has && after.any ws.has
  | wordEnd ws => before.any ws.has && !after.any ws.has
  | wordStartHalf ws => !before.any ws.has
  | wordEndHalf ws => !after.any ws.has

end SuiteLint.Regex
