import SuiteLint.Unicode.CharSet

/-!
# Character sets as byte automata

A regular expression is run on the bytes of a text, so a set of characters becomes an automaton that
reads the bytes of one of its members.  A range of code points is first cut into sequences of byte
ranges, such that one sequence stands for all choices of a byte from each of its ranges.  The two
automata of a set, which read its members forwards and backwards, share their states in different
ways; only how large they get is of interest here.
-/

namespace SuiteLint.Regex

open Unicode

/-! ### Sequences of byte ranges -/

/-- **Byte sequences** of the numbers from `low` to `high` that are written with a leading byte and
`more` bytes of six bits each.  Numbers with the same leading byte form a block; blocks that are
contained as a whole are taken together. -/
def byteSequences : (more lead low high : Nat) → List (List (Nat × Nat))
  | 0, lead, low, high => [[(lead + low, lead + high)]]
  | more + 1, lead, low, high =>
    let block := Nat.pow 64 (more + 1)
    let first := low / block
    let last := high / block
    let within (n a b : Nat) := (byteSequences more 0x80 a b).map ((lead + n, lead + n) :: ·)
    if first = last then within first (low % block) (high % block)
    else
      let firstWhole := if low % block = 0 then first else first + 1
      let endWhole := if high % block = block - 1 then last + 1 else last
      (if low % block = 0 then [] else within first (low % block) (block - 1)) ++
      (if firstWhole < endWhole then
        [(lead + firstWhole, lead + endWhole - 1) :: List.replicate (more + 1) (0x80, 0xBF)]
       else []) ++
      (if high % block = block - 1 then [] else within last 0 (high % block))

/-- The code points that are written with the same number of bytes: first and last of them, the
number of bytes after the first one, and the smallest leading byte.  Surrogates are left out. -/
def byteLengths : List (Nat × Nat × Nat × Nat) :=
  [(0, 0x7F, 0, 0), (0x80, 0x7FF, 1, 0xC0), (0x800, 0xD7FF, 2, 0xE0), (0xE000, 0xFFFF, 2, 0xE0),
   (0x10000, 0x10FFFF, 3, 0xF0)]

/-- The byte sequences of a set, in ascending order. -/
def setSequences (set : CharSet) : List (List (Nat × Nat)) :=
  set.ranges.flatMap (fun (low, high) =>
    byteLengths.flatMap (fun (least, greatest, more, lead) =>
      let low := max low least
      let high := min high greatest
      if low ≤ high then byteSequences more lead low high else []))

/-! ### Sizes -/

/-- The bytes a state takes up. -/
def stateBytes : Nat := 32

/-- The bytes of a transition on a byte range. -/
def rangeBytes : Nat := 8

/-- The bytes of a transition without reading. -/
def linkBytes : Nat := 4

/-- The sum of a list of numbers. -/
def total (numbers : List Nat) : Nat :=
  numbers.foldl (· + ·) 0

/-- Groups of neighbouring sequences that begin with the same range. -/
def groupsByHead (sequences : List (List (Nat × Nat))) : List (List (List (Nat × Nat))) :=
  sequences.splitBy (fun a b => a.head? == b.head?)

/-- What is left to be read at the states of the automaton that reads sequences of at most `depth`
bytes forwards. -/
def remainders : (depth : Nat) → List (List (Nat × Nat)) → List (List (List (Nat × Nat)))
  | 0, _ => []
  | depth + 1, sequences =>
    sequences :: (groupsByHead sequences).flatMap (fun group =>
      let rest := group.map (fun s => s.drop 1)
      if rest.all List.isEmpty then [] else remainders depth rest)

/-- **Size forwards**: states at which the same remains to be read are one state. -/
def forwardBytes (sequences : List (List (Nat × Nat))) : Nat :=
  stateBytes + total ((remainders 4 sequences).eraseDups.map (fun rest =>
    stateBytes + rangeBytes * (groupsByHead rest).length))

/-- How many elements two lists have in common at the front. -/
def commonFront : List (Nat × Nat) → List (Nat × Nat) → Nat
  | a :: as, b :: bs => if a = b then commonFront as bs + 1 else 0
  | _, _ => 0

/-- The states that sequences need one after the other, when each shares those of its front with
the sequence before it. -/
def backwardStates : (before : List (Nat × Nat)) → List (List (Nat × Nat)) → Nat
  | _, [] => 0
  | before, s :: rest => s.length - commonFront before s + backwardStates s rest

/-- **Size backwards**: every sequence is a choice of its own, and sequences with the same front
share its states. -/
def backwardBytes (sequences : List (List (Nat × Nat))) : Nat :=
  2 * stateBytes + linkBytes * sequences.length + stateBytes * backwardStates [] sequences

end SuiteLint.Regex
