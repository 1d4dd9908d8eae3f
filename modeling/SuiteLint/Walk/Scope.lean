/-!
# Named scopes

While a tree is walked, handlers open and close named scopes, to be able to ask whether they are
inside a certain construct.  The open scopes form a stack; beside it a count per name is kept, so
that a name counts as active until its outermost entry is closed.
-/

namespace SuiteLint.Walk

/-! ### Counts per name -/

/-- How often each name occurs; a name that is not listed does not occur. -/
abbrev Tally := List (String × Nat)

namespace Tally

/-- The count of a name. -/
def count (tally : Tally) (name : String) : Nat :=
  (tally.lookup name).getD 0

/-- One more of a name. -/
def raise (name : String) : Tally → Tally
  | [] => [(name, 1)]
  | (n, k) :: rest => if n = name then (n, k + 1) :: rest else (n, k) :: raise name rest

/-- One less of a name; a name that is not listed stays away, and a count stops at zero. -/
def lower (name : String) : Tally → Tally
  | [] => []
  | (n, k) :: rest => if n = name then (n, k - 1) :: rest else (n, k) :: lower name rest

end Tally

/-! ### The tracker -/

/-- Proof that a scope was entered, to leave it by. -/
structure ScopeToken where
  /-- The number of scopes that were open before. -/
  depth : Nat
  deriving DecidableEq, Repr

/-- **Scope tracker**: the open scopes. -/
structure ScopeTracker where
  /-- The names of the open scopes, innermost first. -/
  stack : List String := []
  /-- The count of each name on the stack. -/
  tally : Tally := []

namespace ScopeTracker

/-- The number of open scopes. -/
def depth (scopes : ScopeTracker) : Nat :=
  scopes.stack.length

/-- **Entering** a scope. -/
def enter (scopes : ScopeTracker) (name : String) : ScopeTracker × ScopeToken :=
  ({ stack := name :: scopes.stack, tally := scopes.tally.raise name }, ⟨scopes.depth⟩)

/-- Closes the innermost `count` scopes. -/
def close : Nat → ScopeTracker → ScopeTracker
  | 0, scopes => scopes
  | count + 1, scopes =>
    match scopes.stack with
    | [] => scopes
    | name :: rest => close count { stack := rest, tally := scopes.tally.lower name }

/-- **Restoring** a depth: scopes are closed until at most `depth` are left. -/
def restore (scopes : ScopeTracker) (depth : Nat) : ScopeTracker :=
  close (scopes.depth - depth) scopes

/-- **Leaving** the scope that a token stands for, and all that were entered after it. -/
def leave (scopes : ScopeTracker) (token : ScopeToken) : ScopeTracker :=
  scopes.restore token.depth

/-- Whether a scope of this name is open. -/
def isActive (scopes : ScopeTracker) (name : String) : Bool :=
  0 < scopes.tally.count name

end ScopeTracker

end SuiteLint.Walk
