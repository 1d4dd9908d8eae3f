import SuiteLint.Proofs.Path.Order
import SuiteLint.Report.Diagnostic

/-!
# Report order

Diagnostics are sorted by file and offset.  The order is transitive and total, but not a linear one:
several diagnostics may be about one offset of one file, and different spellings of a file tie.  The
sort leaves those that tie in the order in which they come (`filter_ties_sorted`).

A sorted list is determined by its classes of ties, so that the order of the input matters inside
each of them and nowhere else: `sorted_congr`.
-/

namespace SuiteLint

namespace Diagnostic

instance : Std.TransCmp Diagnostic.compare :=
  inferInstanceAs (Std.TransCmp (compareLex
    (Ordering.byKey (fun d : Diagnostic => d.location.file) Path.compare)
    (compareOn (fun d : Diagnostic => d.location.offset))))

/-- **Ties**: two diagnostics are about the same offset of the same file. -/
def ties (d e : Diagnostic) : Bool :=
  d.compare e == .eq

/-- `d.InOrder e`: in a report, `d` may stand before `e`. -/
def InOrder (d e : Diagnostic) : Prop :=
  d.location.file.compare e.location.file = .lt ∨
    d.location.file.compare e.location.file = .eq ∧ d.location.offset ≤ e.location.offset

theorem ties_iff (d e : Diagnostic) :
    d.ties e = true ↔
      d.location.file.compare e.location.file = .eq ∧ d.location.offset = e.location.offset := by
  rw [ties, beq_iff_eq, compare, Ordering.then_eq_eq, Nat.compare_eq_eq]

theorem inOrder_iff (d e : Diagnostic) : (d.compare e).isLE = true ↔ d.InOrder e := by
  unfold compare InOrder
  cases d.location.file.compare e.location.file with
  | lt => simp
  | eq => simp [Nat.isLE_compare]
  | gt => simp

theorem ties_self (d : Diagnostic) : d.ties d = true :=
  beq_iff_eq.mpr Std.ReflCmp.compare_self

/-- Diagnostics that tie with the same one tie with each other. -/
theorem compare_eq_of_ties {d e x : Diagnostic} (hd : x.ties d = true) (he : x.ties e = true) :
    d.compare e = .eq :=
  Std.TransCmp.eq_trans (Std.OrientedCmp.eq_symm (beq_iff_eq.mp hd)) (beq_iff_eq.mp he)

/-! ### Sorted lists -/

theorem isLE_trans (a b c : Diagnostic) (hab : (a.compare b).isLE = true)
    (hbc : (b.compare c).isLE = true) : (a.compare c).isLE = true :=
  Std.TransCmp.isLE_trans hab hbc

theorem isLE_total (a b : Diagnostic) : ((a.compare b).isLE || (b.compare a).isLE) = true := by
  have hswap : (b.compare a).isLE = (a.compare b).isGE := Std.OrientedCmp.isGE_eq_isLE.symm
  rw [hswap]
  cases a.compare b <;> rfl

theorem mem_of_filter_ties {found found' : List Diagnostic}
    (h : ∀ x : Diagnostic, found.filter x.ties = found'.filter x.ties) {d : Diagnostic}
    (hd : d ∈ found) : d ∈ found' := by
  have hmem : d ∈ found.filter d.ties := List.mem_filter.mpr ⟨hd, ties_self d⟩
  rw [h] at hmem
  exact (List.mem_filter.mp hmem).1

/-- **A sorted list is determined by its classes of ties**. -/
theorem eq_of_filter_ties {found found' : List Diagnostic}
    (hsorted : found.Pairwise (fun a b => (a.compare b).isLE = true))
    (hsorted' : found'.Pairwise (fun a b => (a.compare b).isLE = true))
    (h : ∀ x : Diagnostic, found.filter x.ties = found'.filter x.ties) : found = found' := by
  induction found generalizing found' with
  | nil =>
    refine (List.eq_nil_iff_forall_not_mem.mpr fun d hd => ?_).symm
    exact List.not_mem_nil (mem_of_filter_ties (fun x => (h x).symm) hd)
  | cons d rest ih =>
    cases found' with
    | nil => exact absurd (mem_of_filter_ties h List.mem_cons_self) List.not_mem_nil
    | cons e rest' =>
      rw [List.pairwise_cons] at hsorted hsorted'
      -- each of the two first diagnostics is in the other list, so they tie
      have hde : (d.compare e).isLE = true := by
        rcases List.mem_cons.mp (mem_of_filter_ties (fun x => (h x).symm) List.mem_cons_self) with
          rfl | hmem
        · exact Std.ReflCmp.isLE_rfl
        · exact hsorted.1 e hmem
      have hed : (e.compare d).isLE = true := by
        rcases List.mem_cons.mp (mem_of_filter_ties h List.mem_cons_self) with rfl | hmem
        · exact Std.ReflCmp.isLE_rfl
        · exact hsorted'.1 d hmem
      have hties : d.ties e = true := beq_iff_eq.mpr (Std.OrientedCmp.isLE_antisymm hde hed)
      -- both are the first of their common class, so they are the same
      have hfirst := h d
      rw [List.filter_cons_of_pos (ties_self d), List.filter_cons_of_pos hties] at hfirst
      obtain ⟨rfl, -⟩ := List.cons.inj hfirst
      refine congrArg (d :: ·) (ih hsorted.2 hsorted'.2 fun x => ?_)
      have hclass := h x
      rw [List.filter_cons, List.filter_cons] at hclass
      split at hclass
      · exact (List.cons.inj hclass).2
      · exact hclass

end Diagnostic

namespace LintResult

theorem sorted_perm (r : LintResult) : r.sorted.diagnostics.Perm r.diagnostics :=
  List.mergeSort_perm _ _

theorem pairwise_isLE_sorted (r : LintResult) :
    r.sorted.diagnostics.Pairwise (fun a b => (a.compare b).isLE = true) :=
  List.pairwise_mergeSort Diagnostic.isLE_trans Diagnostic.isLE_total r.diagnostics

theorem pairwise_inOrder_sorted (r : LintResult) :
    r.sorted.diagnostics.Pairwise Diagnostic.InOrder :=
  r.pairwise_isLE_sorted.imp fun {d e} h => (d.inOrder_iff e).mp h

/-- **The sort is stable**: it keeps the order of the diagnostics that tie with any given one. -/
theorem filter_ties_sorted (r : LintResult) (x : Diagnostic) :
    r.sorted.diagnostics.filter x.ties = r.diagnostics.filter x.ties := by
  have hsorted : (r.diagnostics.filter x.ties).Pairwise
      (fun a b => (a.compare b).isLE = true) := by
    refine List.pairwise_of_forall_mem_list fun a ha b hb => ?_
    rw [Diagnostic.compare_eq_of_ties (List.mem_filter.mp ha).2 (List.mem_filter.mp hb).2]
    rfl
  have hsublist : (r.diagnostics.filter x.ties).Sublist r.sorted.diagnostics :=
    List.sublist_mergeSort Diagnostic.isLE_trans Diagnostic.isLE_total hsorted List.filter_sublist
  have hkept := hsublist.filter x.ties
  rw [List.filter_filter] at hkept
  simp only [Bool.and_self] at hkept
  -- the sort neither adds nor drops any, so the sublist is the whole
  have hlength := (r.sorted_perm.filter x.ties).length_eq
  exact (hkept.eq_of_length hlength.symm).symm

/-- **The order of the input** matters only where diagnostics tie. -/
theorem sorted_congr {r r' : LintResult} (hfiles : r.filesChecked = r'.filesChecked)
    (h : ∀ x : Diagnostic, r.diagnostics.filter x.ties = r'.diagnostics.filter x.ties) :
    r.sorted = r'.sorted := by
  have hdiagnostics : r.sorted.diagnostics = r'.sorted.diagnostics := by
    refine Diagnostic.eq_of_filter_ties r.pairwise_isLE_sorted r'.pairwise_isLE_sorted fun x => ?_
    rw [filter_ties_sorted, filter_ties_sorted, h]
  unfold sorted at hdiagnostics ⊢
  dsimp only at hdiagnostics
  rw [hdiagnostics, hfiles]

end LintResult

end SuiteLint
