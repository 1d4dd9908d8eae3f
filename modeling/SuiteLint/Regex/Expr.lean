import SuiteLint.Regex.Assertion

/-!
# Regular expressions and matching

An expression is matched by sets of positions: given the places in the text where a match may
stand, it yields the places where it may end.  A set of positions is a number whose bit `i` tells
whether position `i` belongs to it.  The search is unanchored: a text matches when the expression,
started at every position at once, ends somewhere.
-/

namespace SuiteLint.Regex

open Unicode

/-! ### Expressions -/

/-- **Regular expression**. -/
inductive Expr where
  /-- The empty text. -/
  | empty
  /-- One character of a set. -/
  | char (set : CharSet)
  /-- A condition on the position. -/
  | assert (a : Assertion)
  /-- One after the other. -/
  | seq (a b : Expr)
  /-- Either of the two. -/
  | alt (a b : Expr)
  /-- At least `min` times, and at most `max` times if that is given. -/
  | times (e : Expr) (min : Nat) (max : Option Nat)

/-! ### Matching -/

/-- The set of the positions, counted from `start`, at which `p` holds for the characters on either
side. -/
def positionsWhere (p : Option Char → Option Char → Bool) :
    (before : Option Char) → (text : List Char) → (bit : Nat) → Nat
  | before, [], bit => if p before none then bit else 0
  | before, c :: rest, bit =>
    (if p before (some c) then bit else 0) ||| positionsWhere p (some c) rest (2 * bit)

/-- **Expression over one text**: every leaf replaced by the set of positions it applies to. -/
inductive Track where
  | stay
  | step (mask : Nat)
  | check (mask : Nat)
  | seq (a b : Track)
  | alt (a b : Track)
  | times (t : Track) (min : Nat) (max : Option Nat)

/-- An expression laid over a text. -/
def Expr.over (text : List Char) : Expr → Track
  | .empty => .stay
  | .char set => .step (positionsWhere (fun _ after => after.any set.has) none text 1)
  | .assert a => .check (positionsWhere (fun before after => a.holds before after) none text 1)
  | .seq a b => .seq (a.over text) (b.over text)
  | .alt a b => .alt (a.over text) (b.over text)
  | .times e min max => .times (e.over text) min max

/-- `f` applied `n` times. -/
def iterate (f : Nat → Nat) : Nat → Nat → Nat
  | 0, s => s
  | n + 1, s => iterate f n (f s)

/-- What is reached from `s` by applying `f` at most `n` times. -/
def gather (f : Nat → Nat) : Nat → Nat → Nat
  | 0, s => s
  | n + 1, s =>
    let s' := s ||| f s
    if s' = s then s else gather f n s'

/-- **Positions reached** from a set of positions.  In a text of `length` characters no repetition
can be told from one more after `length + 1` rounds, so that many rounds are enough. -/
def Track.run (length : Nat) : Track → Nat → Nat
  | .stay, s => s
  | .step mask, s => 2 * (s &&& mask)
  | .check mask, s => s &&& mask
  | .seq a b, s => b.run length (a.run length s)
  | .alt a b, s => a.run length s ||| b.run length s
  | .times t least most, s =>
    let rounds := length + 1
    let s := iterate (t.run length) (min least rounds) s
    match most with
    | none => gather (t.run length) rounds s
    | some most => gather (t.run length) (min (most - least) rounds) s

/-- Whether an expression matches somewhere in a text. -/
def Expr.matchesIn (e : Expr) (text : List Char) : Bool :=
  (e.over text).run text.length (Nat.pow 2 (text.length + 1) - 1) != 0

end SuiteLint.Regex
