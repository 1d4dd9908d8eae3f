/-!
# Errors in patterns

What may be wrong with the written form of a regular expression.
-/

namespace SuiteLint.Regex

/-- **Why a pattern is not well formed**. -/
inductive SyntaxError where
  | backReference
  | classEscapeInvalid
  | classRangeInvalid
  | classRangeLiteral
  | classUnclosed
  | countEmpty
  | countInvalid
  | countUnclosed
  | escapeUnfinished
  | escapeUnknown
  | flagDanglingNegation
  | flagDuplicate
  | flagNegatedTwice
  | flagUnfinished
  | flagUnknown
  | groupNameDuplicate
  | groupNameEmpty
  | groupNameInvalid
  | groupNameUnfinished
  | groupUnclosed
  | groupUnopened
  | hexEmpty
  | hexInvalid
  | hexInvalidDigit
  | lookAround
  | nestedTooDeep
  | notUnicode
  | propertyUnknown
  | repetitionMissing
  | wordBoundaryUnknown
  deriving DecidableEq, Repr

/-- The wording of an error. -/
def SyntaxError.message : SyntaxError → String
  | backReference => "backreferences are not supported"
  | classEscapeInvalid => "invalid escape sequence found in character class"
  | classRangeInvalid => "invalid character class range"
  | classRangeLiteral => "a range in a character class must be between two literals"
  | classUnclosed => "unclosed character class"
  | countEmpty => "repetition quantifier expects a valid decimal"
  | countInvalid => "invalid repetition count range"
  | countUnclosed => "unclosed counted repetition"
  | escapeUnfinished => "incomplete escape sequence"
  | escapeUnknown => "unrecognized escape sequence"
  | flagDanglingNegation => "dangling flag negation operator"
  | flagDuplicate => "duplicate flag"
  | flagNegatedTwice => "flag negation operator repeated"
  | flagUnfinished => "expected flag but got end of regex"
  | flagUnknown => "unrecognized flag"
  | groupNameDuplicate => "duplicate capture group name"
  | groupNameEmpty => "empty capture group name"
  | groupNameInvalid => "invalid capture group character"
  | groupNameUnfinished => "unclosed capture group name"
  | groupUnclosed => "unclosed group"
  | groupUnopened => "unopened group"
  | hexEmpty => "hexadecimal literal empty"
  | hexInvalid => "hexadecimal literal is not a Unicode scalar value"
  | hexInvalidDigit => "invalid hexadecimal digit"
  | lookAround => "look-around is not supported"
  | nestedTooDeep => "exceeded the maximum number of nested groups"
  | notUnicode => "pattern can match invalid UTF-8"
  | propertyUnknown => "Unicode property not found"
  | repetitionMissing => "repetition operator missing expression"
  | wordBoundaryUnknown => "unrecognized special word boundary"

end SuiteLint.Regex
