import Mathlib.Tactic.SplitIfs
import SuiteLint.Walk.Scope

/-!
# The scope tracker as a stack

A tracker keeps a stack of names and a count per name beside it.  `Agrees` says that two trackers
cannot be told apart: they have the same stack and the same counts (a name whose count fell back to
zero may still be listed).  `Extends` says that a tracker is another one with some more scopes
entered on top.  Entering keeps the base untouched, and so does restoring any depth that is not
below it; restoring its very depth brings it back (`Extends.restore_base`).
-/

namespace SuiteLint.Walk

/-! ### Counts -/

namespace Tally

theorem count_cons (entry : String × Nat) (tally : Tally) (name : String) :
    count (entry :: tally) name = if name = entry.1 then entry.2 else count tally name := by
  unfold count
  rw [List.lookup_cons]
  by_cases h : name = entry.1
  · rw [beq_iff_eq.mpr h, if_pos h]
    rfl
  · rw [beq_eq_false_iff_ne.mpr h, if_neg h]

theorem count_raise (tally : Tally) (name other : String) :
    (tally.raise name).count other = tally.count other + if other = name then 1 else 0 := by
  induction tally with
  | nil =>
    rw [raise, count_cons]
    simp [count]
  | cons entry rest ih =>
    rw [raise]
    by_cases h : entry.1 = name
    · rw [if_pos h, count_cons, count_cons]
      split_ifs <;> simp_all
    · rw [if_neg h, count_cons, count_cons, ih]
      split_ifs <;> simp_all

theorem count_lower (tally : Tally) (name other : String) :
    (tally.lower name).count other = tally.count other - if other = name then 1 else 0 := by
  induction tally with
  | nil => simp [lower, count]
  | cons entry rest ih =>
    rw [lower]
    by_cases h : entry.1 = name
    · rw [if_pos h, count_cons, count_cons]
      split_ifs <;> simp_all
    · rw [if_neg h, count_cons, count_cons, ih]
      split_ifs <;> simp_all

end Tally

namespace ScopeTracker

/-! ### Trackers that agree -/

/-- **Agreement**: the same stack and the same count of every name. -/
structure Agrees (a b : ScopeTracker) : Prop where
  /-- The stacks are equal. -/
  stack : a.stack = b.stack
  /-- The counts are equal. -/
  count : ∀ name, a.tally.count name = b.tally.count name

theorem Agrees.refl (scopes : ScopeTracker) : Agrees scopes scopes :=
  ⟨rfl, fun _ => rfl⟩

theorem Agrees.symm {a b : ScopeTracker} (h : Agrees a b) : Agrees b a :=
  ⟨h.stack.symm, fun name => (h.count name).symm⟩

theorem Agrees.trans {a b c : ScopeTracker} (h : Agrees a b) (h' : Agrees b c) : Agrees a c :=
  ⟨h.stack.trans h'.stack, fun name => (h.count name).trans (h'.count name)⟩

theorem Agrees.isActive {a b : ScopeTracker} (h : Agrees a b) (name : String) :
    a.isActive name = b.isActive name := by
  unfold ScopeTracker.isActive
  rw [h.count name]

theorem Agrees.depth {a b : ScopeTracker} (h : Agrees a b) : a.depth = b.depth :=
  congrArg List.length h.stack

theorem Agrees.enter {a b : ScopeTracker} (h : Agrees a b) (name : String) :
    Agrees (a.enter name).1 (b.enter name).1 := by
  refine ⟨congrArg (name :: ·) h.stack, fun other => ?_⟩
  show (a.tally.raise name).count other = (b.tally.raise name).count other
  rw [Tally.count_raise, Tally.count_raise, h.count other]

/-- Closing the same number of scopes keeps trackers in agreement. -/
theorem Agrees.close {a b : ScopeTracker} (h : Agrees a b) (count : Nat) :
    Agrees (close count a) (ScopeTracker.close count b) := by
  induction count generalizing a b with
  | zero => exact h
  | succ count ih =>
    rw [ScopeTracker.close, ScopeTracker.close, ← h.stack]
    cases a.stack with
    | nil => exact h
    | cons name rest =>
      refine ih ⟨rfl, fun other => ?_⟩
      rw [Tally.count_lower, Tally.count_lower, h.count other]

theorem Agrees.restore {a b : ScopeTracker} (h : Agrees a b) (depth : Nat) :
    Agrees (a.restore depth) (b.restore depth) := by
  unfold ScopeTracker.restore
  rw [h.depth]
  exact h.close _

/-! ### Trackers with more scopes on top -/

/-- `Extends base scopes`: `scopes` is `base` with some scopes entered on top of it. -/
def Extends (base scopes : ScopeTracker) : Prop :=
  ∃ pushed : List String, scopes.stack = pushed ++ base.stack ∧
    ∀ name, scopes.tally.count name = base.tally.count name + pushed.count name

section

variable {base scopes : ScopeTracker}

theorem Extends.refl (scopes : ScopeTracker) : Extends scopes scopes :=
  ⟨[], rfl, fun _ => rfl⟩

theorem Extends.of_agrees {scopes' : ScopeTracker} (h : Extends base scopes)
    (hagrees : Agrees scopes' scopes) : Extends base scopes' := by
  obtain ⟨pushed, hstack, hcount⟩ := h
  exact ⟨pushed, hagrees.stack.trans hstack, fun name => (hagrees.count name).trans (hcount name)⟩

theorem Extends.depth_le (h : Extends base scopes) : base.depth ≤ scopes.depth := by
  obtain ⟨pushed, hstack, _⟩ := h
  unfold depth
  rw [hstack, List.length_append]
  omega

theorem Extends.enter (h : Extends base scopes) (name : String) :
    Extends base (scopes.enter name).1 := by
  obtain ⟨pushed, hstack, hcount⟩ := h
  refine ⟨name :: pushed, congrArg (name :: ·) hstack, fun other => ?_⟩
  show (scopes.tally.raise name).count other = _
  rw [Tally.count_raise, hcount other, List.count_cons, Nat.add_assoc]
  by_cases hname : other = name
  · rw [if_pos hname, if_pos (beq_iff_eq.mpr hname.symm)]
  · rw [if_neg hname, if_neg (by simpa using Ne.symm hname)]

/-- Closing one scope undoes one entry. -/
theorem Extends.pop {name : String} {rest : List String} (h : Extends base scopes)
    (hcons : scopes.stack = name :: rest) (hdepth : base.depth < scopes.depth) :
    Extends base { stack := rest, tally := scopes.tally.lower name } := by
  obtain ⟨pushed, hstack, hcount⟩ := h
  cases pushed with
  | nil =>
    -- nothing was entered on top of the base
    unfold depth at hdepth
    rw [hstack, List.nil_append] at hdepth
    omega
  | cons top pushed =>
    rw [hcons, List.cons_append] at hstack
    obtain ⟨rfl, rfl⟩ := List.cons.inj hstack
    refine ⟨pushed, rfl, fun other => ?_⟩
    show (scopes.tally.lower name).count other = _
    rw [Tally.count_lower, hcount other, List.count_cons]
    by_cases hname : other = name
    · rw [if_pos hname, if_pos (beq_iff_eq.mpr hname.symm)]
      omega
    · rw [if_neg hname, if_neg (by simpa using Ne.symm hname)]
      rfl

/-- Closing scopes that were entered on top of the base leaves the base untouched. -/
theorem Extends.close {count : Nat} (h : Extends base scopes)
    (hcount : base.depth + count ≤ scopes.depth) :
    Extends base (close count scopes) ∧ (ScopeTracker.close count scopes).depth + count
      = scopes.depth := by
  induction count generalizing scopes with
  | zero => exact ⟨h, rfl⟩
  | succ count ih =>
    cases hcons : scopes.stack with
    | nil =>
      -- there is at least one scope above the base, so the stack is not empty
      unfold depth at hcount
      rw [hcons, List.length_nil] at hcount
      omega
    | cons name rest =>
      have hdepth : scopes.depth = rest.length + 1 := by
        unfold depth
        rw [hcons, List.length_cons]
      have hrest : base.depth + count
          ≤ ScopeTracker.depth { stack := rest, tally := scopes.tally.lower name } := by
        show base.depth + count ≤ rest.length
        omega
      -- close the topmost scope, and the others by the induction hypothesis
      obtain ⟨hext, hlen⟩ := ih (h.pop hcons (by omega)) hrest
      rw [ScopeTracker.close, hcons]
      refine ⟨hext, ?_⟩
      rw [hdepth, ← Nat.add_assoc, hlen]
      rfl

/-- Restoring a depth that is not below the base leaves the base untouched. -/
theorem Extends.restore {target : Nat} (h : Extends base scopes) (htarget : base.depth ≤ target) :
    Extends base (scopes.restore target) :=
  (h.close (by have := h.depth_le; omega)).1

/-- **Restoring the base**: with exactly its depth restored, a tracker agrees with its base. -/
theorem Extends.restore_base (h : Extends base scopes) :
    Agrees (scopes.restore base.depth) base := by
  have hle := h.depth_le
  have hcount : base.depth + (scopes.depth - base.depth) ≤ scopes.depth := by omega
  obtain ⟨⟨pushed, hstack, htally⟩, hdepth⟩ := h.close hcount
  -- what is still on top of the base has length zero
  have hlen : (ScopeTracker.close (scopes.depth - base.depth) scopes).depth
      = pushed.length + base.depth :=
    (congrArg List.length hstack).trans List.length_append
  have hnil : pushed = [] := by
    rw [← List.length_eq_zero_iff]
    omega
  subst hnil
  exact ⟨hstack, htally⟩

end

end ScopeTracker

end SuiteLint.Walk
