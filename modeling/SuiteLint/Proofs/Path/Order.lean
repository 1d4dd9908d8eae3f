import Mathlib.Order.Defs.LinearOrder
import SuiteLint.Path.Basic

/-!
# The order of paths

Paths are compared component by component, and components by rank and characters.  Each of these
comparisons is a lexicographic one, so the order of paths is transitive and total; two paths tie iff
they have the same components (`compare_eq_iff`), however they are spelled.
-/

namespace SuiteLint.Path

theorem compareChars_eq :
    compareChars = List.compareLex (fun a b : Char => Ord.compare a.toNat b.toNat) := by
  funext a b
  induction a generalizing b with
  | nil => cases b <;> rfl
  | cons c rest ih =>
    cases b with
    | nil => rfl
    | cons c' rest' => rw [compareChars, ih, List.compareLex_cons_cons]

theorem compareComponents_eq : compareComponents = List.compareLex Component.compare := by
  funext a b
  induction a generalizing b with
  | nil => cases b <;> rfl
  | cons c rest ih =>
    cases b with
    | nil => rfl
    | cons c' rest' => rw [compareComponents, ih, List.compareLex_cons_cons]

instance : Std.TransCmp compareChars :=
  compareChars_eq ▸ inferInstanceAs (Std.TransCmp (List.compareLex (compareOn Char.toNat)))

instance : Std.LawfulEqCmp (compareOn Char.toNat) where
  compare_self := Std.ReflOrd.compare_self
  eq_of_compare h := Char.toNat_inj.mp (Std.LawfulEqOrd.eq_of_compare h)

instance : Std.LawfulEqCmp compareChars :=
  compareChars_eq ▸ inferInstanceAs (Std.LawfulEqCmp (List.compareLex (compareOn Char.toNat)))

/-- The characters of a name; other components have none. -/
def Component.chars : Component → List Char
  | .name n => n
  | _ => []

/-- Components are ordered by rank first, and then by characters. -/
theorem Component.compare_eq :
    Component.compare = compareLex (compareOn rank) (Ordering.byKey chars compareChars) := by
  funext a b
  cases a <;> cases b <;> rfl

theorem Component.eq_of_rank_chars {a b : Component} (hrank : a.rank = b.rank)
    (hchars : a.chars = b.chars) : a = b := by
  cases a <;> cases b <;> simp_all [rank, chars]

instance : Std.TransCmp Component.compare :=
  Component.compare_eq ▸ inferInstance

instance : Std.LawfulEqCmp Component.compare where
  eq_of_compare {a b} h := by
    rw [Component.compare_eq, compareLex_eq_eq] at h
    obtain ⟨hrank, hchars⟩ := h
    exact Component.eq_of_rank_chars (Std.LawfulEqOrd.eq_of_compare hrank)
      (Std.LawfulEqCmp.eq_of_compare hchars)

instance : Std.TransCmp compareComponents :=
  compareComponents_eq ▸ inferInstance

instance : Std.LawfulEqCmp compareComponents :=
  compareComponents_eq ▸ inferInstance

instance : Std.TransCmp Path.compare :=
  inferInstanceAs (Std.TransCmp (Ordering.byKey components compareComponents))

/-- **Ties** of the path order are exactly the paths with the same components. -/
theorem compare_eq_iff (a b : Path) : a.compare b = .eq ↔ a.components = b.components := by
  rw [Path.compare, Std.LawfulEqCmp.compare_eq_iff_eq]

theorem isLE_compare_total (a b : Path) : ((a.compare b).isLE || (b.compare a).isLE) = true := by
  have hswap : a.compare b = (b.compare a).swap := Std.OrientedCmp.eq_swap
  rw [hswap]
  cases b.compare a <;> rfl

end SuiteLint.Path
