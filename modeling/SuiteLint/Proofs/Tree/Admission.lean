import Mathlib.Data.List.Basic
import SuiteLint.Tree.Classifier

/-!
# What the settings of the classifier do

The settings enter the classification at one point only: a part that is judged by itself is dropped
if they admit it.  They neither decide which parts are judged nor how deep the classifier goes, so
they act as a filter on what it finds with empty settings (`suspectParts_eq_filter`).  Settings that
admit more therefore find less, and what they still find stays in order (`suspectParts_sublist`).
-/

namespace SuiteLint.Tree

namespace ClassifierSettings

/-- **Empty settings**: no list has an entry, and there is no pattern. -/
def bare : ClassifierSettings :=
  { safeCallTexts := [], safeCallTargets := [], safeConstructors := [], ignore := none }

theorem admits_bare (expr : Node) : bare.admits expr = false := by
  unfold admits lists ignores bare
  split <;> simp

/-- `Loosens strict loose`: every entry of the lists of `strict` is on the same list of `loose`, and
every text that the pattern of `strict` matches is matched by that of `loose`. -/
structure Loosens (strict loose : ClassifierSettings) : Prop where
  /-- The texts of calls. -/
  callTexts : ∀ text ∈ strict.safeCallTexts, text ∈ loose.safeCallTexts
  /-- The receivers of method calls. -/
  callTargets : ∀ text ∈ strict.safeCallTargets, text ∈ loose.safeCallTargets
  /-- The constructors. -/
  constructors : ∀ name ∈ strict.safeConstructors, name ∈ loose.safeConstructors
  /-- The texts that the pattern matches. -/
  ignored : ∀ text, strict.ignore.any (fun regex => regex.isMatch text) = true →
    loose.ignore.any (fun regex => regex.isMatch text) = true

section

variable {strict loose : ClassifierSettings}

theorem Loosens.lists (h : Loosens strict loose) {expr : Node}
    (hlists : strict.lists expr = true) : loose.lists expr = true := by
  unfold ClassifierSettings.lists at hlists ⊢
  split at hlists
  · rw [Bool.or_eq_true, List.contains_iff_mem, Option.any_eq_true] at hlists ⊢
    rcases hlists with htext | ⟨target, htarget, hlisted⟩
    · exact Or.inl (h.callTexts _ htext)
    · rw [List.contains_iff_mem] at hlisted
      exact Or.inr ⟨target, htarget, List.contains_iff_mem.mpr (h.callTargets _ hlisted)⟩
  · rw [Option.any_eq_true] at hlists ⊢
    obtain ⟨name, hname, hlisted⟩ := hlists
    rw [List.contains_iff_mem] at hlisted
    exact ⟨name, hname, List.contains_iff_mem.mpr (h.constructors _ hlisted)⟩
  · contradiction

/-- Looser settings admit whatever the stricter ones admit. -/
theorem Loosens.admits (h : Loosens strict loose) {expr : Node}
    (hadmits : strict.admits expr = true) : loose.admits expr = true := by
  unfold ClassifierSettings.admits at hadmits ⊢
  rw [Bool.or_eq_true] at hadmits ⊢
  exact hadmits.imp h.lists (h.ignored expr.text)

end

end ClassifierSettings

open ClassifierSettings (bare Loosens)

/-! ### The filter -/

/-- **The settings are a filter**, whatever the number of levels: each part that is found with empty
settings is kept iff the settings do not admit it. -/
theorem suspects_eq_filter (settings : ClassifierSettings) (room : Nat) (expr : Node) :
    suspects settings room expr
      = (suspects bare room expr).filter (fun part => !settings.admits part) := by
  induction room generalizing expr with
  | zero => rfl
  | succ room ih =>
    rw [suspects, suspects]
    cases shape expr with
    | harmless => rfl
    | made parts =>
      dsimp only
      rw [List.filter_flatMap]
      exact List.flatMap_congr fun part _ => ih part
    | single =>
      -- here the settings are asked, about the part itself
      dsimp only
      rw [ClassifierSettings.admits_bare, Bool.false_or]
      cases isConstant (room + 1) expr <;> cases hadmits : settings.admits expr <;> simp [hadmits]

theorem suspectParts_eq_filter (settings : ClassifierSettings) (expr : Option Node) :
    suspectParts settings expr
      = (suspectParts bare expr).filter (fun part => !settings.admits part) := by
  cases expr with
  | none => rfl
  | some e => exact suspects_eq_filter settings (classifierDepth + 1) e

/-- **Looser settings find less**: what they find is found by the stricter ones, in the same
order. -/
theorem suspectParts_sublist {strict loose : ClassifierSettings} (h : Loosens strict loose)
    (expr : Option Node) :
    (suspectParts loose expr).Sublist (suspectParts strict expr) := by
  rw [suspectParts_eq_filter loose, suspectParts_eq_filter strict]
  refine List.monotone_filter_right _ fun part hloose => ?_
  rw [Bool.not_eq_true'] at hloose ⊢
  exact Bool.eq_false_iff.mpr fun hstrict => Bool.eq_false_iff.mp hloose (h.admits hstrict)

end SuiteLint.Tree
