import SuiteLint.Regex.AsciiClass
import SuiteLint.Regex.SyntaxError
import SuiteLint.Text.Blank
import SuiteLint.Unicode.CaseFolding
import SuiteLint.Unicode.Property

/-!
# Flags

The flags of a pattern decide how it is read and what its characters stand for.  Where classes are
not those of Unicode, a pattern must still not match a part of a character, so that a class may only
contain ASCII characters.
-/

namespace SuiteLint.Regex

open Unicode

/-! ### Flags -/

/-- The flags in force at a place in the pattern. -/
structure Flags where
  /-- Letters match in either case. -/
  ignoreCase : Bool := false
  /-- `^` and `$` match at line breaks. -/
  multiLine : Bool := false
  /-- `.` matches a line feed too. -/
  dotAll : Bool := false
  /-- A carriage return breaks lines too. -/
  crlf : Bool := false
  /-- Classes are those of Unicode. -/
  unicode : Bool := true
  /-- Blanks and comments in the pattern are skipped. -/
  verbose : Bool := false

/-- Sets the flag with a given letter. -/
def Flags.set (flags : Flags) (letter : Char) (on : Bool) : Flags :=
  match letter with
  | 'i' => { flags with ignoreCase := on }
  | 'm' => { flags with multiLine := on }
  | 's' => { flags with dotAll := on }
  | 'R' => { flags with crlf := on }
  | 'u' => { flags with unicode := on }
  | 'x' => { flags with verbose := on }
  | _ => flags

/-- The letters that name a flag; `U` swaps greedy and lazy repetition, which changes no answer. -/
def flagLetters : List Char := ['i', 'm', 's', 'U', 'u', 'R', 'x']

/-- Reads flag letters up to `:` or `)`, which is left in the rest. -/
def readFlags (flags : Flags) (seen : List Char) (negated pendingMinus : Bool) :
    List Char → Except SyntaxError (Flags × List Char × List Char)
  | [] => .error .flagUnfinished
  | c :: rest =>
    if c = ':' ∨ c = ')' then
      if pendingMinus then .error .flagDanglingNegation else .ok (flags, seen, c :: rest)
    else if c = '-' then
      if negated then .error .flagNegatedTwice else readFlags flags ('-' :: seen) true true rest
    else if flagLetters.contains c then
      if seen.contains c then .error .flagDuplicate
      else readFlags (flags.set c (!negated)) (c :: seen) negated false rest
    else .error .flagUnknown

/-! ### Blanks -/

/-- Skips blanks and comments. -/
def skipRemarks : (inComment : Bool) → List Char → List Char
  | _, [] => []
  | true, c :: cs => skipRemarks (c != '\n') cs
  | false, c :: cs =>
    if Text.isBlank c then skipRemarks false cs
    else if c = '#' then skipRemarks true cs
    else c :: cs

/-- Skips what the flags allow to be skipped. -/
def Flags.skip (flags : Flags) (cs : List Char) : List Char :=
  if flags.verbose then skipRemarks false cs else cs

/-! ### Sets -/

namespace Flags

/-- The word characters under the flags. -/
def words (flags : Flags) : CharSet :=
  if flags.unicode then Property.words else AsciiClass.word

/-- A set with the case variants of its members, if the flags ask for them. -/
def fold (flags : Flags) (set : CharSet) : CharSet :=
  if !flags.ignoreCase then set
  else if flags.unicode then set.fold
  else set.foldAscii

/-- The complement of a set, if it is asked for; it contains more than ASCII characters. -/
def negate (flags : Flags) (negated : Bool) (set : CharSet) : Except SyntaxError CharSet :=
  if !negated then .ok set
  else if flags.unicode then .ok set.compl
  else .error .notUnicode

/-- A class that is folded first, and then negated. -/
def foldAndNegate (flags : Flags) (negated : Bool) (set : CharSet) : Except SyntaxError CharSet :=
  flags.negate negated (flags.fold set)

end Flags

end SuiteLint.Regex
