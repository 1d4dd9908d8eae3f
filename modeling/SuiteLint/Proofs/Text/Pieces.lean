import Mathlib.Data.List.Basic
import SuiteLint.Text.Pieces

/-!
# Trimming and cutting

What the operations on pieces of text yield.  Removing an opening and cutting at a character are
described by how the text is put together (`after?_eq_some_iff`, `cutAt?_eq_some_iff`), and so is an
occurrence inside another text (`occursIn_iff`).  The pieces of a text are free of what it was split
at (`eq_false_of_mem_splitOnP`).  Trimming leaves a text alone whose first and last characters are
not blank (`trim_eq_self`).  A list of names that is written with a comma and a space between
neighbours is read back as it was (`commaList_intercalate`).
-/

namespace SuiteLint.Text

/-! ### Trimming -/

theorem trimStart_eq_self {cs : List Char} (h : ∀ c ∈ cs.head?, isBlank c = false) :
    trimStart cs = cs := by
  cases cs with
  | nil => rfl
  | cons c rest => exact List.dropWhile_cons_of_neg (by simp [h c rfl])

theorem trimStart_cons_of_blank {c : Char} (h : isBlank c = true) (cs : List Char) :
    trimStart (c :: cs) = trimStart cs :=
  List.dropWhile_cons_of_pos h

/-- Trimming stops at the latest at a character that is not blank. -/
theorem trimStart_append_cons {c : Char} (h : isBlank c = false) (cs rest : List Char) :
    trimStart (cs ++ c :: rest) = trimStart cs ++ c :: rest := by
  have hrest : trimStart (c :: rest) = c :: rest :=
    trimStart_eq_self fun x hx => Option.some.inj hx ▸ h
  unfold trimStart at hrest ⊢
  rw [List.dropWhile_append, hrest]
  split
  · rename_i hempty
    rw [List.isEmpty_iff.mp hempty, List.nil_append]
  · rfl

theorem trimEnd_isPrefix (cs : List Char) : trimEnd cs <+: cs := by
  rw [← List.reverse_suffix, trimEnd, List.reverse_reverse]
  exact List.dropWhile_suffix _

theorem trimEnd_eq_self {cs : List Char} (h : ∀ c ∈ cs.getLast?, isBlank c = false) :
    trimEnd cs = cs := by
  have hreverse : cs.reverse.dropWhile isBlank = cs.reverse :=
    trimStart_eq_self (by rwa [List.head?_reverse])
  rw [trimEnd, hreverse, List.reverse_reverse]

/-- **Trimming changes nothing** where neither end is blank. -/
theorem trim_eq_self {cs front back : List Char} {first last : Char}
    (hfirst : cs = first :: back) (hlast : cs = front ++ [last]) (hblank : isBlank first = false)
    (hblank' : isBlank last = false) : trim cs = cs := by
  have hstart : trimStart cs = cs := by
    refine trimStart_eq_self fun c hc => ?_
    rw [hfirst] at hc
    exact Option.some.inj hc ▸ hblank
  have hend : trimEnd cs = cs := by
    refine trimEnd_eq_self fun c hc => ?_
    rw [hlast, List.getLast?_concat] at hc
    exact Option.some.inj hc ▸ hblank'
  rw [trim, hstart, hend]

theorem trim_cons_of_blank {c : Char} (h : isBlank c = true) (cs : List Char) :
    trim (c :: cs) = trim cs := by
  rw [trim, trim, trimStart_cons_of_blank h]

/-! ### Cutting -/

/-- A text without an opening is what stands after the opening. -/
theorem after?_eq_some_iff {opening cs rest : List Char} :
    after? opening cs = some rest ↔ cs = opening ++ rest := by
  induction opening generalizing cs with
  | nil => exact Option.some_inj
  | cons o opening ih =>
    cases cs with
    | nil => exact iff_of_false nofun nofun
    | cons c cs =>
      rw [after?, List.cons_append, List.cons.injEq]
      split
      · rename_i heq
        rw [ih]
        exact (and_iff_right heq.symm).symm
      · rename_i hne
        exact iff_of_false nofun fun h => hne h.1.symm

theorem after?_append (opening rest : List Char) : after? opening (opening ++ rest) = some rest :=
  after?_eq_some_iff.mpr rfl

/-- An opening without a certain character stands before that character. -/
theorem isPrefix_of_isPrefix_append_cons {opening cs rest : List Char} {c : Char}
    (hc : c ∉ opening) (h : opening <+: cs ++ c :: rest) : opening <+: cs := by
  rcases List.prefix_or_prefix_of_prefix h (List.prefix_append cs (c :: rest)) with
    hcs | ⟨more, rfl⟩
  · exact hcs
  · -- the opening would go on with that character
    rw [List.prefix_append_right_inj] at h
    cases more with
    | nil => simp
    | cons m more =>
      obtain ⟨rfl, -⟩ := List.cons_prefix_cons.mp h
      exact absurd (List.mem_append_right cs List.mem_cons_self) hc

/-- The cut is at the first mark. -/
theorem cutAt?_eq_some_iff {mark : Char} {cs left right : List Char} :
    cutAt? mark cs = some (left, right) ↔ cs = left ++ mark :: right ∧ mark ∉ left := by
  induction cs generalizing left with
  | nil => simp [cutAt?]
  | cons c cs ih =>
    rw [cutAt?]
    split
    · rename_i heq
      subst heq
      -- the mark stands at the front, so nothing can stand before it
      cases left with
      | nil => simp
      | cons l left => simp +contextual [eq_comm]
    · rename_i hne
      cases left with
      | nil => simp [hne]
      | cons l left =>
        have htail := @ih left
        simp only [Option.map_eq_some_iff, Prod.exists, Prod.mk.injEq, List.cons.injEq]
        grind

/-- No piece of a text has a character in it that the text was split at. -/
theorem eq_false_of_mem_splitOnP {p : Char → Bool} {cs piece : List Char}
    (h : piece ∈ cs.splitOnP p) : ∀ c ∈ piece, p c = false := by
  induction cs generalizing piece with
  | nil =>
    rw [List.splitOnP_nil, List.mem_singleton] at h
    rw [h]
    nofun
  | cons c cs ih =>
    rw [List.splitOnP_cons_eq_if_modifyHead] at h
    by_cases hc : p c = true
    · rw [if_pos hc, List.mem_cons] at h
      rcases h with rfl | h
      · nofun
      · exact ih h
    · -- the character goes to the front of the first piece
      obtain ⟨first, rest, hsplit⟩ := List.exists_cons_of_ne_nil (List.splitOnP_ne_nil p cs)
      rw [hsplit] at ih
      rw [if_neg hc, hsplit, List.modifyHead_cons, List.mem_cons] at h
      rcases h with rfl | h
      · exact List.forall_mem_cons.mpr ⟨eq_false_of_ne_true hc, ih List.mem_cons_self⟩
      · exact ih (List.mem_cons_of_mem _ h)

/-! ### Occurrences and pairs -/

theorem occursIn_iff {part cs : List Char} : occursIn part cs = true ↔ part <:+: cs := by
  induction cs with
  | nil => rw [occursIn, List.isEmpty_iff, List.infix_nil]
  | cons c cs ih =>
    rw [occursIn, Bool.or_eq_true, List.isPrefixOf_iff_prefix, ih, List.infix_cons_iff]

theorem erasePairs_cons_of_ne {mark c : Char} (h : c ≠ mark) (cs : List Char) :
    erasePairs mark (c :: cs) = c :: erasePairs mark cs := by
  cases cs with
  | nil => rfl
  | cons d cs =>
    rw [erasePairs, if_neg]
    exact fun hpair => h hpair.1

theorem erasePairs_cons_cons (mark : Char) (cs : List Char) :
    erasePairs mark (mark :: mark :: cs) = erasePairs mark cs := by
  rw [erasePairs, if_pos ⟨rfl, rfl⟩]

theorem mem_erasePairs_of_single {mark : Char} {cs : List Char} (h : cs.head? ≠ some mark) :
    mark ∈ erasePairs mark (mark :: cs) := by
  cases cs with
  | nil => exact List.mem_singleton.mpr rfl
  | cons c cs =>
    have hne : c ≠ mark := fun heq => h (congrArg some heq)
    rw [erasePairs, if_neg fun hpair => hne hpair.2]
    exact List.mem_cons_self

theorem length_le_byteLength (cs : List Char) : cs.length ≤ byteLength cs := by
  induction cs with
  | nil => exact Nat.le_refl _
  | cons c cs ih =>
    have hsize := c.utf8Size_pos
    have hcons : byteLength (c :: cs) = c.utf8Size + byteLength cs := rfl
    rw [hcons, List.length_cons]
    omega

theorem byteLength_append (cs ds : List Char) :
    byteLength (cs ++ ds) = byteLength cs + byteLength ds := by
  induction cs with
  | nil => exact (Nat.zero_add _).symm
  | cons c cs ih =>
    show c.utf8Size + byteLength (cs ++ ds) = c.utf8Size + byteLength cs + byteLength ds
    rw [ih, Nat.add_assoc]

/-! ### Lists of names -/

theorem not_mem_intercalate {between : List Char} {pieces : List (List Char)} {c : Char}
    (hbetween : c ∉ between) (hpieces : ∀ piece ∈ pieces, c ∉ piece) :
    c ∉ between.intercalate pieces := by
  induction pieces with
  | nil => exact List.not_mem_nil
  | cons piece rest ih =>
    rw [List.forall_mem_cons] at hpieces
    cases rest with
    | nil => simpa using hpieces.1
    | cons next rest =>
      rw [List.intercalate_cons_cons, List.mem_append, List.mem_append]
      rintro ((hmem | hmem) | hmem)
      · exact hpieces.1 hmem
      · exact hbetween hmem
      · exact ih hpieces.2 hmem

/-- A space after each comma belongs to the next name. -/
theorem intercalate_comma_space (name : List Char) (rest : List (List Char)) :
    [',', ' '].intercalate (name :: rest)
      = [','].intercalate (name :: rest.map (fun next => ' ' :: next)) := by
  induction rest generalizing name with
  | nil => rfl
  | cons next rest ih =>
    rw [List.intercalate_cons_cons, ih, List.map_cons, List.intercalate_cons_cons]
    cases rest <;> simp [List.intercalate_cons_cons]

/-- **Reading a list of names** gives the names that were written, provided that each of them is
trimmed, not empty, and free of commas. -/
theorem commaList_intercalate {names : List (List Char)}
    (h : ∀ name ∈ names, name ≠ [] ∧ trim name = name ∧ ',' ∉ name) :
    commaList ([',', ' '].intercalate names) = names := by
  cases names with
  | nil => rfl
  | cons name rest =>
    have hcommas : ∀ piece ∈ name :: rest.map (fun next => ' ' :: next), ',' ∉ piece := by
      rw [List.forall_mem_cons] at h ⊢
      refine ⟨h.1.2.2, List.forall_mem_map.mpr fun next hnext hmem => ?_⟩
      rcases List.mem_cons.mp hmem with hcomma | hmem
      · exact absurd hcomma (by decide)
      · exact (h.2 next hnext).2.2 hmem
    -- trimming takes the spaces away again
    have htrim : (name :: rest.map (fun next => ' ' :: next)).map trim = name :: rest := by
      rw [List.forall_mem_cons] at h
      rw [List.map_cons, h.1.2.1, List.map_map, List.cons.injEq]
      refine ⟨rfl, (List.map_congr_left fun next hnext => ?_).trans (List.map_id rest)⟩
      exact (trim_cons_of_blank rfl next).trans (h.2 next hnext).2.1
    rw [commaList, intercalate_comma_space,
      List.splitOn_intercalate ',' hcommas (List.cons_ne_nil _ _), htrim]
    refine List.filter_eq_self.mpr fun piece hpiece => ?_
    simpa using (h piece hpiece).1

end SuiteLint.Text
