import Mathlib.Data.List.Infix
import SuiteLint.Proofs.Walk.Scope

/-!
# Histories of a scope tracker

A tracker keeps two records of the open scopes, a stack and a count per name.  This module follows a
tracker from the empty one through any sequence of operations (`perform`): entering scopes, leaving
by any token, fresh or stale, and restoring any depth.

`perform_consistent`: the counts are always those of the stack; closing scopes never falls back on
what it does for a name without a count; and a token whose scope has stayed open takes the tracker
back to where it was before that scope was entered.

All three follow from one invariant of `Proofs.Walk.Scope`: as long as the depth does not fall below
that of some earlier tracker, the tracker is that one with scopes entered on top
(`Operation.extends_apply`, `extends_perform`).  With the empty tracker as the earlier one the
condition on the depth is void.
-/

namespace SuiteLint.Walk

/-! ### Counts that do not stop at zero -/

/-- One less of a name, provided that the name is listed with a count above zero. -/
def Tally.lower? (tally : Tally) (name : String) : Option Tally :=
  match tally.lookup name with
  | some (_ + 1) => some (tally.lower name)
  | _ => none

theorem Tally.lower?_eq_some {tally : Tally} {name : String} (h : 0 < tally.count name) :
    tally.lower? name = some (tally.lower name) := by
  unfold Tally.count at h
  unfold Tally.lower?
  cases hlookup : tally.lookup name with
  | none =>
    rw [hlookup] at h
    exact absurd h (Nat.lt_irrefl 0)
  | some count =>
    rw [hlookup, Option.getD_some] at h
    obtain ⟨rest, rfl⟩ := Nat.exists_eq_add_of_lt h
    rw [Nat.zero_add]

namespace ScopeTracker

/-! ### Operations -/

/-- **Operation** on a tracker. -/
inductive Operation where
  /-- Enters a scope. -/
  | enter (name : String)
  /-- Leaves by a token, whether or not its scope is still open. -/
  | leave (token : ScopeToken)
  /-- Restores a depth. -/
  | restore (depth : Nat)
  deriving DecidableEq, Repr

/-- What an operation makes of a tracker. -/
def Operation.apply : Operation → ScopeTracker → ScopeTracker
  | enter name, scopes => (scopes.enter name).1
  | leave token, scopes => scopes.leave token
  | restore depth, scopes => scopes.restore depth

/-- **Performing** a sequence of operations, one after the other. -/
def perform (ops : List Operation) (scopes : ScopeTracker) : ScopeTracker :=
  ops.foldl (fun scopes op => op.apply scopes) scopes

theorem perform_cons (op : Operation) (ops : List Operation) (scopes : ScopeTracker) :
    perform (op :: ops) scopes = perform ops (op.apply scopes) :=
  rfl

/-! ### Closing without a fallback -/

/-- **Closing strictly**: the innermost `count` scopes are closed, and it is a failure if there are
fewer, or if one of them has no count, or a count of zero, when its turn comes. -/
def close? : Nat → ScopeTracker → Option ScopeTracker
  | 0, scopes => some scopes
  | count + 1, scopes =>
    match scopes.stack with
    | [] => none
    | name :: rest =>
      (scopes.tally.lower? name).bind fun tally => close? count { stack := rest, tally := tally }

/-- **Restoring strictly** a depth. -/
def restore? (scopes : ScopeTracker) (depth : Nat) : Option ScopeTracker :=
  close? (scopes.depth - depth) scopes

theorem depth_close (count : Nat) (scopes : ScopeTracker) :
    (close count scopes).depth = scopes.depth - count := by
  induction count generalizing scopes with
  | zero => rfl
  | succ count ih =>
    rw [close]
    cases hstack : scopes.stack with
    | nil =>
      unfold depth
      rw [hstack, List.length_nil, Nat.zero_sub]
    | cons name rest =>
      have hdepth : scopes.depth = rest.length + 1 := by
        unfold depth
        rw [hstack, List.length_cons]
      rw [ih, hdepth, Nat.add_sub_add_right]
      rfl

theorem depth_restore (scopes : ScopeTracker) (depth : Nat) :
    (scopes.restore depth).depth = min scopes.depth depth := by
  unfold restore
  rw [depth_close]
  omega

/-! ### Counts that match the stack -/

/-- A tracker is the empty one with scopes on top iff its counts are those of its stack. -/
theorem extends_empty_iff (scopes : ScopeTracker) :
    Extends {} scopes ↔ ∀ name, scopes.tally.count name = scopes.stack.count name := by
  have hempty : ∀ name, Tally.count [] name = 0 := fun _ => rfl
  constructor
  · rintro ⟨pushed, hstack, hcount⟩ name
    rw [hcount name, hstack, List.append_nil, hempty, Nat.zero_add]
  · intro h
    refine ⟨scopes.stack, (List.append_nil _).symm, fun name => ?_⟩
    rw [h name, hempty, Nat.zero_add]

/-- If the counts match the stack, closing strictly does not fail. -/
theorem close?_eq_some {count : Nat} {scopes : ScopeTracker} (h : Extends {} scopes)
    (hcount : count ≤ scopes.depth) : close? count scopes = some (close count scopes) := by
  induction count generalizing scopes with
  | zero => rfl
  | succ count ih =>
    cases hstack : scopes.stack with
    | nil =>
      unfold depth at hcount
      rw [hstack] at hcount
      exact absurd hcount (Nat.not_succ_le_zero count)
    | cons name rest =>
      have hdepth : scopes.depth = rest.length + 1 := by
        unfold depth
        rw [hstack, List.length_cons]
      -- the topmost name is on the stack, so its count is not zero
      have hpositive : 0 < scopes.tally.count name := by
        rw [(extends_empty_iff scopes).mp h name, hstack, List.count_cons_self]
        exact Nat.succ_pos _
      have hpop : Extends {} { stack := rest, tally := scopes.tally.lower name } :=
        h.pop hstack (by rw [hdepth]; exact Nat.succ_pos _)
      rw [close?, close, hstack]
      dsimp only
      rw [Tally.lower?_eq_some hpositive, Option.bind_some]
      refine ih hpop ?_
      show count ≤ rest.length
      omega

/-! ### What operations keep -/

section

variable {base scopes : ScopeTracker}

/-- **One operation** leaves a base untouched, unless it takes the depth below it. -/
theorem Operation.extends_apply (op : Operation) (h : Extends base scopes)
    (hdepth : base.depth ≤ (op.apply scopes).depth) : Extends base (op.apply scopes) := by
  -- restoring leaves the smaller of two depths, so the depth restored is not below the base
  have hrestore : ∀ target, base.depth ≤ (scopes.restore target).depth →
      Extends base (scopes.restore target) := by
    intro target htarget
    rw [depth_restore] at htarget
    exact h.restore (htarget.trans (Nat.min_le_right _ _))
  cases op with
  | enter name => exact h.enter name
  | leave token => exact hrestore token.depth hdepth
  | restore target => exact hrestore target hdepth

/-- **A sequence of operations** leaves a base untouched, if the depth never falls below it. -/
theorem extends_perform {ops : List Operation} (h : Extends base scopes)
    (hdepth : ∀ done ∈ ops.inits, base.depth ≤ (perform done scopes).depth) :
    Extends base (perform ops scopes) := by
  induction ops generalizing scopes with
  | nil => exact h
  | cons op ops ih =>
    have hlater : ∀ done ∈ ops.inits, base.depth ≤ (perform done (op.apply scopes)).depth := by
      intro done hdone
      rw [← perform_cons]
      refine hdepth _ ?_
      rw [List.mem_inits] at hdone ⊢
      exact (List.prefix_cons_inj op).mpr hdone
    have hfirst : base.depth ≤ (op.apply scopes).depth := hlater [] (by simp)
    exact ih (op.extends_apply h hfirst) hlater

end

/-- Whatever is performed on the empty tracker, the counts match the stack. -/
theorem extends_empty_perform (ops : List Operation) : Extends {} (perform ops {}) :=
  extends_perform (.refl {}) fun _ _ => Nat.zero_le _

theorem isActive_iff {scopes : ScopeTracker} (h : Extends {} scopes) (name : String) :
    scopes.isActive name = true ↔ name ∈ scopes.stack := by
  unfold isActive
  rw [decide_eq_true_iff, (extends_empty_iff scopes).mp h name, List.count_pos_iff]

/-- Leaving by a token whose scope has stayed open undoes the entry and all that followed. -/
theorem leave_agrees {scopes opened : ScopeTracker} {name : String} {token : ScopeToken}
    (henter : scopes.enter name = (opened, token)) {later : List Operation}
    (hopen : ∀ done ∈ later.inits, token.depth < (perform done opened).depth) :
    Agrees ((perform later opened).leave token) scopes := by
  obtain ⟨rfl, rfl⟩ := Prod.mk.inj henter
  have hextends : Extends scopes (perform later (scopes.enter name).1) :=
    extends_perform ((Extends.refl scopes).enter name) fun done hdone =>
      Nat.le_of_lt (hopen done hdone)
  exact hextends.restore_base

/-! ### Consistency -/

/-- **A tracker is consistent after any history.**  The count of every name is the number of times
it is on the stack, so a name is active iff it is there; restoring a depth is the same as restoring
it strictly; and if a scope is entered next, and at every moment since then the depth was above that
of its token, leaving by the token brings back the stack and the activity of every name. -/
theorem perform_consistent (ops : List Operation) :
    let scopes := perform ops {}
    (∀ name, scopes.tally.count name = scopes.stack.count name) ∧
      (∀ name, scopes.isActive name = true ↔ name ∈ scopes.stack) ∧
      (∀ depth, scopes.restore? depth = some (scopes.restore depth)) ∧
      ∀ name opened token later, scopes.enter name = (opened, token) →
        (∀ done ∈ later.inits, token.depth < (perform done opened).depth) →
        ((perform later opened).leave token).stack = scopes.stack ∧
          ∀ other, ((perform later opened).leave token).isActive other = scopes.isActive other := by
  intro scopes
  have hextends : Extends {} scopes := extends_empty_perform ops
  refine ⟨(extends_empty_iff scopes).mp hextends, isActive_iff hextends, fun depth => ?_, ?_⟩
  · exact close?_eq_some hextends (Nat.sub_le _ _)
  · intro name opened token later henter hopen
    have hagrees := leave_agrees henter hopen
    exact ⟨hagrees.stack, hagrees.isActive⟩

/-- Inside a scope `suite` another one is entered, then `hook` and a third `suite`.  Leaving `hook`
closes that one too, so that its token is stale when it is used; `hook` is entered again and
forgotten.  The token of the second `suite` still leads back to the first. -/
theorem perform_consistent_nested :
    let before : List Operation := [.enter "suite"]
    let later : List Operation :=
      [.enter "hook", .enter "suite", .leave ⟨2⟩, .leave ⟨3⟩, .enter "hook"]
    let opened := ((perform before {}).enter "suite").1
    (∀ done ∈ later.inits, 1 < (perform done opened).depth) ∧
      ((perform later opened).leave ⟨1⟩).stack = ["suite"] ∧
      ((perform later opened).leave ⟨1⟩).isActive "suite"
        = (perform before {}).isActive "suite" := by
  intro before later opened
  have hopen : ∀ done ∈ later.inits, 1 < (perform done opened).depth := by decide
  obtain ⟨_, _, _, hleave⟩ := perform_consistent before
  obtain ⟨hstack, hactive⟩ := hleave "suite" opened ⟨1⟩ later rfl hopen
  exact ⟨hopen, hstack, hactive "suite"⟩

end ScopeTracker

end SuiteLint.Walk
