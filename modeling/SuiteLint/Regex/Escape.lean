import SuiteLint.Regex.Assertion
import SuiteLint.Regex.Flags
import SuiteLint.Text.Hex
import SuiteLint.Unicode.Query

/-!
# Escapes

What follows a backslash in a pattern: a character that would have a meaning otherwise, a control
character, a code point, a class of characters or an assertion.
-/

namespace SuiteLint.Regex

open Unicode

/-- What a single element of a pattern stands for. -/
inductive Primitive where
  /-- A character. -/
  | literal (c : Char)
  /-- A byte above the ASCII range, which stands for a character only in Unicode mode. -/
  | byte (c : Char)
  /-- A class of characters. -/
  | set (s : CharSet)
  /-- A condition on the position. -/
  | assertion (a : Assertion)

/-- The character with a given code point, if it is a scalar value. -/
def scalar? (n : Nat) : Except SyntaxError Char :=
  if h : n.isValidChar then .ok (Char.ofNatAux n h) else .error .hexInvalid

/-- Reads exactly `count` hexadecimal digits. -/
def readHexDigits (flags : Flags) : (count value : Nat) → List Char →
    Except SyntaxError (Nat × List Char)
  | 0, value, cs => .ok (value, cs)
  | _ + 1, _, [] => .error .escapeUnfinished
  | count + 1, value, c :: cs =>
    match Text.hexValue? c with
    | none => .error .hexInvalidDigit
    | some d => readHexDigits flags count (16 * value + d) (flags.skip cs)

/-- What stands up to the closing brace, blanks skipped; `fuel` bounds the characters read. -/
def readBraced (flags : Flags) : (fuel : Nat) → List Char → List Char →
    Except SyntaxError (List Char × List Char)
  | 0, _, _ => .error .escapeUnfinished
  | _ + 1, _, [] => .error .escapeUnfinished
  | fuel + 1, taken, c :: cs =>
    if c = '\x7d' then .ok (taken.reverse, cs)
    else readBraced flags fuel (c :: taken) (flags.skip cs)

/-- The number that hexadecimal digits stand for. -/
def hexNumber (digits : List Char) : Except SyntaxError Nat :=
  if digits.isEmpty then .error .hexEmpty
  else digits.foldlM (fun value c =>
    match Text.hexValue? c with
    | none => Except.error SyntaxError.hexInvalidDigit
    | some d => .ok (16 * value + d)) 0

/-- Reads the code point that follows the letter of an escape: digits in braces, or a fixed number
of them.  Two digits after `x` give a byte. -/
def readCodePoint (flags : Flags) (letter : Char) (cs : List Char) :
    Except SyntaxError (Primitive × List Char) :=
  match flags.skip cs with
  | [] => .error .escapeUnfinished
  | '\x7b' :: rest => do
    let rest := flags.skip rest
    let (inside, rest) ← readBraced flags (rest.length + 1) [] rest
    let c ← scalar? (← hexNumber inside)
    .ok (.literal c, flags.skip rest)
  | rest => do
    let digits := if letter = 'x' then 2 else if letter = 'u' then 4 else 8
    let (n, rest) ← readHexDigits flags digits 0 rest
    let c ← scalar? n
    .ok (if letter = 'x' ∧ 127 < n then .byte c else .literal c, rest)

/-- The class that a letter such as `d` stands for; the capital letter stands for the rest. -/
def letterClass (flags : Flags) (letter : Char) : Except SyntaxError CharSet :=
  let base : CharSet := match letter with
    | 'd' | 'D' => if flags.unicode then Category.members .decimalNumber else AsciiClass.digit
    | 's' | 'S' => if flags.unicode then Property.whiteSpace else AsciiClass.space
    | _ => flags.words
  flags.negate letter.isUpper base

/-- The text before and after the first place where `mark` stands. -/
def cutAt? (mark : List Char) : (before : List Char) → List Char → Option (List Char × List Char)
  | _, [] => none
  | before, c :: rest =>
    if mark.isPrefixOf (c :: rest) then some (before.reverse, (c :: rest).drop mark.length)
    else cutAt? mark (c :: before) rest

/-- The query that stands in braces: a name, or a property and its value.  The marks `!=`, `:` and
`=` between them mean the same. -/
def queryOf (text : List Char) : Query :=
  match (cutAt? ['!', '='] [] text).or ((cutAt? [':'] [] text).or (cutAt? ['='] [] text)) with
  | some (property, value) => .valued property value
  | none => .named text

/-- Reads the property that follows `p` or `P`. -/
def readProperty (flags : Flags) (negated : Bool) (cs : List Char) :
    Except SyntaxError (CharSet × List Char) := do
  let (query, rest) ← match flags.skip cs with
    | [] => Except.error SyntaxError.escapeUnfinished
    | '\x7b' :: rest => do
      let (text, rest) ← readBraced flags (rest.length + 1) [] (flags.skip rest)
      .ok (queryOf text, rest)
    | '\\' :: _ => .error .propertyUnknown
    | c :: rest => .ok (.named [c], flags.skip rest)
  match if flags.unicode then query.answer? else none with
  | none => .error .propertyUnknown
  | some set => .ok (← flags.foldAndNegate negated set, rest)

/-- The characters with a meaning in patterns. -/
def metaChars : List Char :=
  ['\\', '.', '+', '*', '?', '(', ')', '|', '[', ']', '\x7b', '\x7d', '^', '$', '#', '&', '-', '~']

/-- Whether a character may be escaped and then stands for itself. -/
def mayBeEscaped (c : Char) : Bool :=
  metaChars.contains c || (c.toNat < 128 && !c.isAlphanum && c != '<' && c != '>')

/-- Whether a character may stand in the name of a special word boundary. -/
def isBoundaryNameChar (c : Char) : Bool :=
  c.isAlpha || c = '-'

/-- Reads what may follow a word boundary in braces; a count is left for the repetition. -/
def readBoundaryName (flags : Flags) (cs : List Char) :
    Except SyntaxError (Assertion × List Char) :=
  let plain : Assertion := .boundary flags.words
  match cs with
  | '\x7b' :: inside =>
    match flags.skip inside with
    | [] => .error .countUnclosed
    | c :: rest =>
      if !isBoundaryNameChar c then .ok (plain, cs)
      else do
        let (name, rest) ← readBraced flags (rest.length + 2) [] (c :: rest)
        match String.ofList name with
        | "start" => .ok (.wordStart flags.words, rest)
        | "end" => .ok (.wordEnd flags.words, rest)
        | "start-half" => .ok (.wordStartHalf flags.words, rest)
        | "end-half" => .ok (.wordEndHalf flags.words, rest)
        | _ => .error .wordBoundaryUnknown
  | _ => .ok (plain, cs)

/-- Reads what follows a backslash. -/
def readEscape (flags : Flags) : List Char → Except SyntaxError (Primitive × List Char)
  | [] => .error .escapeUnfinished
  | c :: rest =>
    if '0' ≤ c ∧ c ≤ '9' then .error .backReference
    else if c = 'x' ∨ c = 'u' ∨ c = 'U' then
      readCodePoint flags c rest
    else if c = 'p' ∨ c = 'P' then do
      let (set, rest) ← readProperty flags (c = 'P') rest
      .ok (.set set, rest)
    else if ['d', 's', 'w', 'D', 'S', 'W'].contains c then do
      .ok (.set (← letterClass flags c), rest)
    else if mayBeEscaped c then .ok (.literal c, rest)
    else match c with
      | 'a' => .ok (.literal '\x07', rest)
      | 'f' => .ok (.literal '\x0c', rest)
      | 't' => .ok (.literal '\t', rest)
      | 'n' => .ok (.literal '\n', rest)
      | 'r' => .ok (.literal '\r', rest)
      | 'v' => .ok (.literal '\x0b', rest)
      | 'A' => .ok (.assertion .textStart, rest)
      | 'z' => .ok (.assertion .textEnd, rest)
      | 'b' => do
        let (a, rest) ← readBoundaryName flags rest
        .ok (.assertion a, rest)
      | 'B' => .ok (.assertion (.noBoundary flags.words), rest)
      | '<' => .ok (.assertion (.wordStart flags.words), rest)
      | '>' => .ok (.assertion (.wordEnd flags.words), rest)
      | _ => .error .escapeUnknown

end SuiteLint.Regex
