import SuiteLint.Regex.Assertion
import SuiteLint.Regex.Utf8

/-!
# How large an expression gets

An expression is compiled into two automata, one that reads the text forwards and one that reads it
backwards.  A counted repetition repeats the states of its operand, so a short pattern may stand for
a huge automaton; patterns beyond a limit are refused.  The size of an expression is computed from
the sizes of its parts, without building anything.
-/

namespace SuiteLint.Regex

open Unicode

/-! ### Sizes -/

/-- **Size** of the two automata, in bytes. -/
structure Size where
  /-- The automaton that reads forwards. -/
  forward : Nat
  /-- The automaton that reads backwards. -/
  backward : Nat

namespace Size

/-- The same size in both directions. -/
def both (n : Nat) : Size := ⟨n, n⟩

/-- The size of two parts together. -/
def plus (a b : Size) : Size :=
  ⟨a.forward + b.forward, a.backward + b.backward⟩

/-- The size of `n` copies. -/
def scale (n : Nat) (a : Size) : Size :=
  ⟨n * a.forward, n * a.backward⟩

/-- The size of several parts together. -/
def sum (sizes : List Size) : Size :=
  sizes.foldl plus (both 0)

end Size

/-- The size of a state that chooses between `n` ways. -/
def choiceBytes (n : Nat) : Nat :=
  stateBytes + linkBytes * n

/-! ### Words to choose from -/

/-- Groups of words by their first byte, without that byte, in the order of their first members. -/
def groupsByFirst (words : List (List Nat)) : List (List (List Nat)) :=
  (words.filterMap List.head?).eraseDups.map (fun b =>
    words.filterMap (fun word =>
      match word with
      | c :: rest => if c = b then some rest else none
      | [] => none))

/-- The size of the tree that reads one of several words, which are not all empty and have at most
`depth` bytes.  Where a word ends, the words before it and those after it are told apart, since the
former are preferred to it and it is preferred to the latter. -/
def treeBytes : (depth : Nat) → List (List Nat) → Nat
  | 0, _ => 0
  | depth + 1, words =>
    let parts := (words.splitOnP List.isEmpty).map groupsByFirst
    choiceBytes (parts.length - 1) + total (parts.map (fun groups =>
      (match groups.length with
        | 0 => 0
        | 1 => linkBytes + stateBytes
        | n => linkBytes + stateBytes + rangeBytes * n) +
      total (groups.map (fun group =>
        if group.all List.isEmpty then 0 else treeBytes depth group))))

/-- The bytes of a text. -/
def bytesOf (text : List Char) : List Nat :=
  text.flatMap (fun c => (String.utf8EncodeChar c).map UInt8.toNat)

/-- The size of the choice between several texts. -/
def wordsSize (texts : List (List Char)) : Size :=
  let words := texts.map bytesOf
  let depth := (words.map List.length).foldl max 0
  ⟨stateBytes + treeBytes depth words, stateBytes + treeBytes depth (words.map List.reverse)⟩

/-! ### Footprints -/

/-- The ways of a choice. -/
structure Ways where
  /-- How many there are. -/
  count : Nat
  /-- How large they are together. -/
  size : Size
  /-- Their texts, if all of them are fixed. -/
  texts : Option (List (List Char))

namespace Ways

/-- The ways of several choices together. -/
def all (choices : List Ways) : Ways :=
  { count := total (choices.map Ways.count)
    size := .sum (choices.map Ways.size)
    texts := (choices.mapM Ways.texts).map List.flatten }

/-- The size of the choice: fixed texts are read by a tree. -/
def wholeSize (ways : Ways) : Size :=
  match ways.texts with
  | some texts => wordsSize texts
  | none => .plus (.both (choiceBytes ways.count + stateBytes)) ways.size

end Ways

/-- What an expression looks like from outside, as far as its size depends on it in combination with
others. -/
inductive Form where
  /-- The empty text. -/
  | nothing
  /-- A fixed text. -/
  | literal (text : List Char)
  /-- One character of a set. -/
  | oneOf (set : CharSet)
  /-- A choice. -/
  | choice (ways : Ways)
  /-- Anything else. -/
  | other

/-- **Footprint** of an expression: its size, and what decides on the size of larger ones. -/
structure Footprint where
  /-- What it looks like. -/
  form : Form
  /-- How large it is. -/
  size : Size
  /-- Whether it may match the empty text. -/
  mayBeEmpty : Bool
  /-- Whether it can match nothing but the empty text. -/
  onlyEmpty : Bool := false
  /-- Whether it can match at the beginning of the text only. -/
  fromStart : Bool := false
  /-- Whether it can match at the end of the text only. -/
  toEnd : Bool := false

namespace Footprint

/-- The footprint of the empty text. -/
def nothing : Footprint :=
  { form := .nothing, size := .both stateBytes, mayBeEmpty := true, onlyEmpty := true }

/-- The footprint of an assertion. -/
def ofAssertion (a : Assertion) : Footprint :=
  { form := .other, size := .both stateBytes, mayBeEmpty := true, onlyEmpty := true
    fromStart := a matches .textStart, toEnd := a matches .textEnd }

/-- The footprint of a fixed text, which is not empty. -/
def ofText (text : List Char) : Footprint :=
  { form := .literal text, size := .both (stateBytes * (bytesOf text).length)
    mayBeEmpty := false }

/-- The footprint of one character of a set.  A set of ASCII characters needs one state to read it
and one to end in. -/
def ofSet (set : CharSet) : Footprint :=
  match set.single? with
  | some c => ofText [c]
  | none =>
    let size : Size :=
      if set.isAscii then .both (2 * stateBytes + rangeBytes * set.ranges.length)
      else
        let sequences := setSequences set
        ⟨forwardBytes sequences, backwardBytes sequences⟩
    { form := .oneOf set, size := size, mayBeEmpty := false }

/-- Whether an expression is the empty text. -/
def isNothing (a : Footprint) : Bool :=
  a.form matches .nothing

/-- The fixed text of an expression. -/
def text? (a : Footprint) : Option (List Char) :=
  match a.form with
  | .literal text => some text
  | _ => none

/-- The set of an expression that matches single characters. -/
def set? (a : Footprint) : Option CharSet :=
  match a.form with
  | .literal [c] => some (.single c)
  | .oneOf set => some set
  | _ => none

/-- Whether one of several expressions in a row, the first that reads something or one before it, is
tied to the place where the row begins. -/
def tied (isTied : Footprint → Bool) : List Footprint → Bool
  | [] => false
  | a :: rest => isTied a || (a.onlyEmpty && tied isTied rest)

/-- The footprint of several expressions in a row. -/
def sequence (parts : List Footprint) : Footprint :=
  match parts.filter (fun a => !a.isNothing) with
  | [] => nothing
  | [a] => a
  | parts =>
    match parts.mapM text? with
    | some texts => ofText texts.flatten
    | none =>
      { form := .other
        size := .sum (parts.map Footprint.size)
        mayBeEmpty := parts.all Footprint.mayBeEmpty
        onlyEmpty := parts.all Footprint.onlyEmpty
        fromStart := tied Footprint.fromStart parts
        toEnd := tied Footprint.toEnd parts.reverse }

/-- The ways that an expression adds to a choice it is part of. -/
def ways (a : Footprint) : Ways :=
  match a.form with
  | .choice ways => ways
  | _ => ⟨1, a.size, a.text?.map (fun text => [text])⟩

/-- The footprint of a choice.  Single characters to choose from make up a set, and a choice within
a choice belongs to the outer one. -/
def choice (parts : List Footprint) : Footprint :=
  match parts with
  | [a] => a
  | parts =>
    match parts.mapM set? with
    | some sets => ofSet (.all sets)
    | none =>
      let ways := Ways.all (parts.map Footprint.ways)
      { form := .choice ways
        size := ways.wholeSize
        mayBeEmpty := parts.any Footprint.mayBeEmpty
        onlyEmpty := parts.all Footprint.onlyEmpty
        fromStart := parts.all Footprint.fromStart
        toEnd := parts.all Footprint.toEnd }

/-- The size of a repetition. -/
def repeatedSize (a : Footprint) (least : Nat) : (most : Option Nat) → Size
  | none =>
    if least = 0 then
      let ends := if a.mayBeEmpty then 2 * choiceBytes 2 + stateBytes else choiceBytes 2
      a.size.plus (.both ends)
    else (a.size.scale least).plus (.both (choiceBytes 2))
  | some most =>
    if least = most then a.size.scale least
    else if least = 0 ∧ most = 1 then a.size.plus (.both (choiceBytes 2 + stateBytes))
    else
      let required := if least = 0 then .both stateBytes else a.size.scale least
      let further := (a.size.plus (.both (choiceBytes 2))).scale (most - least)
      (required.plus further).plus (.both stateBytes)

/-- The footprint of a repetition; the empty text need not be repeated. -/
def repeated (a : Footprint) (least : Nat) (most : Option Nat) : Footprint :=
  let (least, most) :=
    if a.onlyEmpty then (min least 1, some (min (most.getD 1) 1)) else (least, most)
  if most = some 0 then nothing
  else if least = 1 ∧ most = some 1 then a
  else
    { form := .other
      size := a.repeatedSize least most
      mayBeEmpty := least = 0 || a.mayBeEmpty
      onlyEmpty := a.onlyEmpty
      fromStart := 0 < least && a.fromStart
      toEnd := 0 < least && a.toEnd }

/-- The footprint of a group that captures what it matches, which only matters forwards. -/
def captured (a : Footprint) : Footprint :=
  { a with form := .other, size := a.size.plus ⟨2 * stateBytes, 0⟩ }

/-! ### The limit -/

/-- The greatest size of an automaton, in bytes. -/
def limit : Nat := 10485760

/-- The states in front of an automaton: unless it is tied to the place where it starts, it may skip
any number of bytes before. -/
def leadIn (isTied : Bool) : Nat :=
  if isTied then stateBytes else choiceBytes 2 + 2 * stateBytes + rangeBytes

/-- **Whether a whole pattern is too large**: forwards or backwards, with the states around it. -/
def isTooLarge (a : Footprint) : Bool :=
  let whole := a.captured.size
  limit < leadIn a.fromStart + whole.forward + stateBytes ||
    limit < leadIn a.toEnd + whole.backward + stateBytes

end Footprint

end SuiteLint.Regex
