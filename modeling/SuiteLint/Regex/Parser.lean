import SuiteLint.Regex.Basic
import SuiteLint.Regex.Bracket
import SuiteLint.Regex.Expr
import SuiteLint.Regex.Footprint

/-!
# Reading patterns

The written form of regular expressions.  The reader goes over the pattern once, from left to
right, with a stack of the groups that are open; flags set in a group hold from there to its end,
across alternatives.  A pattern that is not well formed is refused with its cause: there are no
look-around assertions and no back references, a repetition needs an operand, and an escaped letter
must have a meaning.  The texts of refusals are this library's own, and classes by the properties
`gcb`, `wb` and `sb` are refused for want of their values (`Unicode.Query`); so what is proved about
patterns is proved for any `Regex.Compiler`.
-/

namespace SuiteLint

namespace Regex

open Unicode

/-! ### Groups and repetitions -/

/-- A part of a pattern. -/
structure Part where
  /-- What it matches. -/
  expr : Expr
  /-- How large it gets. -/
  footprint : Footprint
  /-- How deep the constructs in it are nested. -/
  depth : Nat := 0

namespace Part

/-- The empty part. -/
def empty : Part :=
  { expr := .empty, footprint := .nothing }

/-- One character of a set. -/
def char (set : CharSet) (depth : Nat) : Part :=
  { expr := .char set, footprint := .ofSet set, depth := depth }

/-- An assertion. -/
def assert (a : Assertion) : Part :=
  { expr := .assert a, footprint := .ofAssertion a }

/-- The depth of a construct with several parts. -/
def depthOf (parts : List Part) : Nat :=
  (parts.map Part.depth).foldl max 0 + 1

/-- Several parts in a row. -/
def sequence (parts : List Part) : Part :=
  match parts with
  | [] => empty
  | [one] => one
  | many =>
    { expr := many.foldr (fun part rest => .seq part.expr rest) .empty
      footprint := .sequence (many.map Part.footprint)
      depth := depthOf many }

/-- A part or, if that does not match, one of several others. -/
def choice (first : Part) (others : List Part) : Part :=
  match others with
  | [] => first
  | others =>
    { expr := others.foldl (fun chosen part => .alt chosen part.expr) first.expr
      footprint := .choice ((first :: others).map Part.footprint)
      depth := depthOf (first :: others) }

/-- A part in parentheses. -/
def group (part : Part) (captures : Bool) : Part :=
  { part with
    footprint := if captures then part.footprint.captured else part.footprint
    depth := part.depth + 1 }

/-- A repeated part. -/
def times (part : Part) (least : Nat) (most : Option Nat) : Part :=
  { expr := .times part.expr least most
    footprint := part.footprint.repeated least most
    depth := part.depth + 1 }

end Part

/-- An element of the concatenation being read. -/
inductive Item where
  /-- A flag setting, which is no operand. -/
  | setting
  /-- An operand. -/
  | operand (part : Part)

/-- A group that is open. -/
structure Level where
  /-- The finished elements of the current alternative, last first. -/
  items : List Item := []
  /-- The finished alternatives, last first. -/
  branches : List Part := []
  /-- Whether the group captures what it matches. -/
  captures : Bool := false
  /-- The flags to return to when the group closes. -/
  outer : Flags := {}

/-- The part that an element is. -/
def Item.part : Item → Part
  | .setting => .empty
  | .operand part => part

/-- The concatenation of elements listed last first. -/
def concatOf (items : List Item) : Part :=
  .sequence (items.reverse.map Item.part)

/-- What a level that ends here matches. -/
def Level.close (level : Level) : Part :=
  match (concatOf level.items :: level.branches).reverse with
  | [] => .empty
  | first :: others => .choice first others

/-- Whether a character may stand in a group name. -/
def isNameChar (isFirst : Bool) (c : Char) : Bool :=
  c = '_' || Property.alphabetic.has c ||
    (!isFirst && (c = '.' || c = '[' || c = ']' || (Category.union Category.numbers).has c))

/-- Reads a group name up to `>`. -/
def readName : (taken : List Char) → List Char → Except SyntaxError (List Char × List Char)
  | _, [] => .error .groupNameUnfinished
  | taken, '>' :: rest =>
    if taken.isEmpty then .error .groupNameEmpty else .ok (taken.reverse, rest)
  | taken, c :: rest =>
    if isNameChar taken.isEmpty c then readName (c :: taken) rest else .error .groupNameInvalid

/-- What an opening parenthesis turns out to begin. -/
inductive Opening where
  /-- Flags for the rest of the enclosing group. -/
  | setting (flags : Flags)
  /-- A group that captures what it matches, with its name if it has one. -/
  | capture (name : Option (List Char))
  /-- A group with flags of its own. -/
  | group (flags : Flags)

/-- Reads what follows an opening parenthesis. -/
def readOpening (flags : Flags) (cs : List Char) : Except SyntaxError (Opening × List Char) :=
  match flags.skip cs with
  | '?' :: '=' :: _ | '?' :: '!' :: _ | '?' :: '<' :: '=' :: _ | '?' :: '<' :: '!' :: _ =>
    .error .lookAround
  | '?' :: 'P' :: '<' :: rest | '?' :: '<' :: rest => do
    let (name, rest) ← readName [] rest
    .ok (.capture (some name), rest)
  | ['?'] => .error .groupUnclosed
  | '?' :: rest => do
    let (changed, seen, rest) ← readFlags flags [] false false rest
    match rest with
    | ')' :: rest =>
      if seen.isEmpty then .error .repetitionMissing else .ok (.setting changed, rest)
    | _ => .ok (.group changed, rest.drop 1)
  | rest => .ok (.capture none, rest)

/-- Reads decimal digits, with what the flags allow to be skipped after each of them; `fuel` bounds
their number. -/
def readDigits (flags : Flags) : (fuel : Nat) → (digits : List Char) → List Char →
    List Char × List Char
  | fuel + 1, digits, c :: rest =>
    if c.isDigit then readDigits flags fuel (c :: digits) (flags.skip rest)
    else (digits.reverse, c :: rest)
  | _, digits, cs => (digits.reverse, cs)

/-- Reads a decimal number with the blanks around it; nothing when there is no digit. -/
def readCount (flags : Flags) (cs : List Char) : Option Nat × List Char :=
  let (digits, rest) := readDigits flags cs.length [] (cs.dropWhile Text.isBlank)
  let value := digits.foldl (fun n c => 10 * n + (c.toNat - 48)) 0
  (if digits.isEmpty then none else some value, flags.skip (rest.dropWhile Text.isBlank))

/-- The largest count a repetition may have. -/
def maxCount : Nat := 4294967295

/-- A count that is there and not too large. -/
def checkCount : Option Nat → Except SyntaxError Nat
  | none => .error .countEmpty
  | some n => if n ≤ maxCount then .ok n else .error .countInvalid

/-- Reads a counted repetition after its opening brace. -/
def readCounts (flags : Flags) (cs : List Char) :
    Except SyntaxError ((Nat × Option Nat) × List Char) := do
  let (low, rest) := readCount flags (flags.skip cs)
  let ((least, most), rest) ← match rest with
    | [] => Except.error SyntaxError.countUnclosed
    | ',' :: rest =>
      match flags.skip rest with
      | [] => .error .countUnclosed
      | '\x7d' :: _ => do .ok ((← checkCount low, none), flags.skip rest)
      | rest => do
        let least ← checkCount low
        let (high, rest) := readCount flags rest
        let most ← checkCount high
        .ok ((least, some most), rest)
    | _ => do
      let n ← checkCount low
      .ok ((n, some n), rest)
  match rest with
  | '\x7d' :: rest =>
    if most.any (fun m => m < least) then .error .countInvalid else .ok ((least, most), rest)
  | _ => .error .countUnclosed

/-- Wraps the last element of a level in a repetition. -/
def Level.repeatLast (level : Level) (least : Nat) (most : Option Nat) : Except SyntaxError Level :=
  match level.items with
  | .operand part :: rest =>
    .ok { level with items := .operand (part.times least most) :: rest }
  | _ => .error .repetitionMissing

/-- What a primitive matches outside a class. -/
def primitivePart (flags : Flags) : Primitive → Except SyntaxError Part
  | .assertion a => .ok (.assert a)
  | .set s => .ok (.char s 0)
  | .literal c => .ok (.char (flags.fold (.single c)) 0)
  | .byte c =>
    if flags.unicode then .ok (.char (flags.fold (.single c)) 0) else .error .notUnicode

/-- What a character matches that stands for itself or for a common condition. -/
def plainPart (flags : Flags) (c : Char) : Except SyntaxError Part :=
  match c with
  | '.' =>
    if !flags.unicode then .error .notUnicode
    else if flags.dotAll then .ok (.char .any 0)
    else if flags.crlf then .ok (.char (CharSet.all [.single '\r', .single '\n']).compl 0)
    else .ok (.char (CharSet.single '\n').compl 0)
  | '^' =>
    .ok (.assert (if flags.multiLine then (if flags.crlf then .lineStartCr else .lineStart)
      else .textStart))
  | '$' =>
    .ok (.assert (if flags.multiLine then (if flags.crlf then .lineEndCr else .lineEnd)
      else .textEnd))
  | c => primitivePart flags (.literal c)

/-! ### Whole patterns -/

/-- Takes a question mark that makes a repetition lazy. -/
def dropLazy : List Char → List Char
  | '?' :: rest => rest
  | cs => cs

/-- Reads a pattern to its end; `fuel` bounds the number of elements. -/
def readPattern : (fuel : Nat) → (flags : Flags) → (names : List (List Char)) →
    (stack : List Level) → (level : Level) → List Char → Except SyntaxError Part
  | 0, _, _, _, _, _ => .error .groupUnclosed
  | fuel + 1, flags, names, stack, level, cs =>
    let push (part : Part) (rest : List Char) :=
      readPattern fuel flags names stack { level with items := .operand part :: level.items } rest
    match flags.skip cs with
    | [] => if stack.isEmpty then .ok level.close else .error .groupUnclosed
    | '(' :: rest => do
      let (opening, rest) ← readOpening flags rest
      match opening with
      | .setting changed =>
        readPattern fuel changed names stack { level with items := .setting :: level.items } rest
      | .group inner => readPattern fuel inner names (level :: stack) { outer := flags } rest
      | .capture name =>
        let names ← match name with
          | none => Except.ok names
          | some n => if names.contains n then .error .groupNameDuplicate else .ok (n :: names)
        readPattern fuel flags names (level :: stack) { outer := flags, captures := true } rest
    | ')' :: rest =>
      match stack with
      | [] => .error .groupUnopened
      | above :: stack =>
        readPattern fuel level.outer names stack
          { above with items := .operand (level.close.group level.captures) :: above.items } rest
    | '|' :: rest =>
      readPattern fuel flags names stack
        { level with items := [], branches := concatOf level.items :: level.branches } rest
    | '[' :: rest => do
      let (set, rest) ← readClass flags rest
      push (.char set.item set.depth) rest
    | '?' :: rest => do
      readPattern fuel flags names stack (← level.repeatLast 0 (some 1)) (dropLazy rest)
    | '*' :: rest => do
      readPattern fuel flags names stack (← level.repeatLast 0 none) (dropLazy rest)
    | '+' :: rest => do
      readPattern fuel flags names stack (← level.repeatLast 1 none) (dropLazy rest)
    | '\x7b' :: rest => do
      let _ ← level.repeatLast 0 none
      let ((least, most), rest) ← readCounts flags rest
      readPattern fuel flags names stack (← level.repeatLast least most)
        (dropLazy (flags.skip rest))
    | '\\' :: rest => do
      let (p, rest) ← readEscape flags rest
      push (← primitivePart flags p) rest
    | c :: rest => do push (← plainPart flags c) rest

/-- The greatest depth to which constructs may be nested. -/
def nestLimit : Nat := 250

/-- **Reads a pattern**, or tells what is wrong with it. -/
def read (pattern : String) : Except SyntaxError Part := do
  let cs := pattern.toList
  let part ← readPattern (cs.length + 1) {} [] [] {} cs
  if nestLimit < part.depth then .error .nestedTooDeep else .ok part

/-! ### Compiling -/

/-- **Why a pattern is refused**. -/
inductive Error where
  /-- It is not well formed. -/
  | malformed (e : SyntaxError)
  /-- It gets too large. -/
  | tooLarge
  deriving DecidableEq, Repr

/-- The wording of a refusal, in one line and without the pattern. -/
def Error.message : Error → String
  | malformed e => "regex parse error: " ++ e.message
  | tooLarge =>
    "Compiled regex exceeds size limit of " ++ toString Footprint.limit ++ " bytes."

/-- **Compiles** a pattern, or gives the cause why it is refused. -/
def compile (pattern : String) : Except Error Regex :=
  match read pattern with
  | .error e => .error (.malformed e)
  | .ok part =>
    if part.footprint.isTooLarge then .error .tooLarge
    else .ok ⟨fun text => part.expr.matchesIn text.toList⟩

/-- **The compiler** that is used where no other is given. -/
def compiler : Compiler :=
  fun pattern => (compile pattern).mapError Error.message

end Regex

end SuiteLint
