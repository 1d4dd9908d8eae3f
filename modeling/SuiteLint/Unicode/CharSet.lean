import SuiteLint.Text.Blank
import SuiteLint.Text.Hex

/-!
# Sets of characters

A set of characters is kept as ranges of code points in ascending order, with a gap between each
range and the next.  Every operation brings its result into this form, so a set has one
representation only, and the number of its ranges is a property of the set.
-/

namespace SuiteLint.Unicode

/-- The greatest code point. -/
def maxCode : Nat := 0x10FFFF

/-- **Character set**: ranges of code points in ascending order, with gaps between them. -/
structure CharSet where
  /-- First and last code point of each range. -/
  ranges : List (Nat × Nat)
  deriving DecidableEq

namespace CharSet

/-! ### Membership -/

/-- **Membership** of a code point. -/
def hasCode (set : CharSet) (n : Nat) : Bool :=
  set.ranges.any (fun (low, high) => low ≤ n && n ≤ high)

/-- Membership of a character. -/
def has (set : CharSet) (c : Char) : Bool :=
  set.hasCode c.toNat

/-- Whether a set has no member. -/
def isEmpty (set : CharSet) : Bool :=
  set.ranges.isEmpty

/-- Whether every member is an ASCII character. -/
def isAscii (set : CharSet) : Bool :=
  set.ranges.all (fun (_, high) => high < 128)

/-- The member of a set that has one only. -/
def single? (set : CharSet) : Option Char :=
  match set.ranges with
  | [(low, high)] => if low = high then some (Char.ofNat low) else none
  | _ => none

/-! ### Construction -/

/-- Joins a range with those that follow, which do not begin before it, wherever they overlap or
touch. -/
def joinFrom (low high : Nat) : List (Nat × Nat) → List (Nat × Nat)
  | [] => [(low, high)]
  | (a, b) :: rest =>
    if a ≤ high + 1 then joinFrom low (max high b) rest
    else (low, high) :: joinFrom a b rest

/-- The set of the code points in any of the given ranges. -/
def ofRanges (ranges : List (Nat × Nat)) : CharSet :=
  match ranges.mergeSort (fun a b => a.1 ≤ b.1) with
  | [] => ⟨[]⟩
  | (low, high) :: rest => ⟨joinFrom low high rest⟩

/-- No character. -/
def none : CharSet := ⟨[]⟩

/-- Every character. -/
def any : CharSet := ⟨[(0, maxCode)]⟩

/-- The code points from `low` to `high`, of which the second is not the lesser one. -/
def range (low high : Nat) : CharSet := ⟨[(low, high)]⟩

/-- The set with one member. -/
def single (c : Char) : CharSet :=
  range c.toNat c.toNat

/-- The characters between two characters. -/
def between (a b : Char) : CharSet :=
  range a.toNat b.toNat

/-- The range that is written as one code point, or as two with a hyphen between them. -/
def readRange (word : List Char) : Nat × Nat :=
  let low := word.takeWhile (fun c => c != '-')
  match word.drop low.length with
  | [] => (Text.hexNumber low, Text.hexNumber low)
  | _ :: high => (Text.hexNumber low, Text.hexNumber high)

/-- **Written set**: lines of hexadecimal code points and ranges of them, such as `41-5A 5F`. -/
def ofLines (lines : List String) : CharSet :=
  ofRanges (lines.flatMap (fun line => (Text.words line.toList).map readRange))

/-! ### Operations -/

/-- The members of either set. -/
def union (a b : CharSet) : CharSet :=
  ofRanges (a.ranges ++ b.ranges)

/-- The union of a list of sets. -/
def all (sets : List CharSet) : CharSet :=
  ofRanges (sets.flatMap CharSet.ranges)

/-- The ranges from `next` on that lie between the given ones. -/
def gapsFrom (next : Nat) : List (Nat × Nat) → List (Nat × Nat)
  | [] => if next ≤ maxCode then [(next, maxCode)] else []
  | (low, high) :: rest =>
    if next < low then (next, low - 1) :: gapsFrom (high + 1) rest else gapsFrom (high + 1) rest

/-- All other characters. -/
def compl (a : CharSet) : CharSet :=
  ⟨gapsFrom 0 a.ranges⟩

/-- The members of both sets: those that are in neither complement. -/
def inter (a b : CharSet) : CharSet :=
  (a.compl.union b.compl).compl

/-- The members of the first set that are not in the second. -/
def diff (a b : CharSet) : CharSet :=
  (a.compl.union b).compl

/-- The members of exactly one of two sets. -/
def symmDiff (a b : CharSet) : CharSet :=
  (a.diff b).union (b.diff a)

end CharSet

end SuiteLint.Unicode
