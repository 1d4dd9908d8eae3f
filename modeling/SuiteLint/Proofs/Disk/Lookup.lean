import SuiteLint.Disk.Entry
import SuiteLint.Proofs.Outcome.Success
import SuiteLint.Proofs.Path.Place

/-!
# Looking paths up

Whether a path names a file depends on the place that it denotes (`Disk.hasFile`) and, beyond that,
only on whether its spelling asks for a directory: `isFile_iff`.  For a plain name below a directory
the spelling asks for nothing, and the place is that of the directory with the name added:
`isFile_join_plain`.

`Entry.named` is the test that all names on a disk are fine, for any notion of a fine name; what is
found on such a disk passes the test itself (`Disk.named_of_find`).
-/

namespace SuiteLint

open SuiteLint.Path (Component)

/-- The leading dot leads nowhere. -/
theorem Entry.follow_filter (above : List Entry) (here : Entry) (components : List Component) :
    follow above here (components.filter (fun c => c ≠ .current))
      = follow above here components := by
  induction components generalizing above here with
  | nil => rfl
  | cons c rest ih =>
    cases c with
    | root => exact ih above here
    | current => exact ih above here
    | parent =>
      show follow above here (.parent :: _) = follow above here (.parent :: rest)
      cases here with
      | file content => rfl
      | directory entries =>
        cases above with
        | nil => exact ih [] _
        | cons up above => exact ih above up
    | name n =>
      show follow above here (.name n :: _) = follow above here (.name n :: rest)
      cases here with
      | file content => rfl
      | directory entries =>
        rw [follow, follow]
        cases entries.lookup (String.ofList n) with
        | none => rfl
        | some entry => exact ih _ entry

/-- **What holds of directories and passes to their entries** holds of all that is reached. -/
theorem Entry.follow_invariant {P : Entry → Prop}
    (hentry : ∀ {entries name entry}, P (.directory entries) →
      entries.lookup name = some entry → P entry)
    {above : List Entry} {here entry : Entry} {components : List Component}
    (habove : ∀ up ∈ above, P up) (hhere : P here)
    (h : follow above here components = .ok entry) : P entry := by
  induction components generalizing above here with
  | nil =>
    obtain rfl := Except.ok.inj h
    exact hhere
  | cons c rest ih =>
    cases c with
    | root | current => exact ih habove hhere h
    | parent =>
      cases here with
      | file content => contradiction
      | directory entries =>
        cases above with
        | nil => exact ih habove hhere h
        | cons up above =>
          rw [List.forall_mem_cons] at habove
          exact ih habove.2 habove.1 h
    | name n =>
      cases here with
      | file content => contradiction
      | directory entries =>
        rw [follow] at h
        split at h
        · contradiction
        · rename_i next hlookup
          exact ih (List.forall_mem_cons.mpr ⟨hhere, habove⟩) (hentry hhere hlookup) h

namespace Disk

/-- Whether there is a file at a place. -/
def hasFile (disk : Disk) (place : List Component) : Bool :=
  match Entry.follow [] disk.root place with
  | .ok entry => entry.isFile
  | .error _ => false

/-- **What a path leads to**: the entry at its components, unless it is a file and the path is
spelled as that of a directory. -/
theorem find_eq_ok_iff {disk : Disk} {path : Path} {entry : Entry} :
    disk.find path = .ok entry ↔ path.text ≠ "" ∧
      ¬ (wantsDirectory path = true ∧ entry.isFile = true) ∧
      Entry.follow [] disk.root (disk.absolute path).components = .ok entry := by
  unfold find
  by_cases hempty : path.text.isEmpty = true
  · rw [if_pos hempty]
    exact iff_of_false nofun fun h => h.1 (String.isEmpty_iff.mp hempty)
  have hne : path.text ≠ "" := fun h => hempty (String.isEmpty_iff.mpr h)
  rw [if_neg hempty, bind_eq_ok_iff, and_iff_right hne, ← Bool.and_eq_true]
  constructor
  · rintro ⟨found, hfollow, hentry⟩
    split at hentry
    · contradiction
    · rename_i hwants
      obtain rfl := Except.ok.inj hentry
      exact ⟨hwants, hfollow⟩
  · rintro ⟨hwants, hfollow⟩
    exact ⟨entry, hfollow, if_neg hwants⟩

/-- **Naming a file**: there is one at the place of the path, and the spelling of the path is
neither empty nor that of a directory. -/
theorem isFile_iff (disk : Disk) (path : Path) :
    disk.isFile path = true ↔ path.text ≠ "" ∧ wantsDirectory path = false ∧
      disk.hasFile (disk.absolute path).place = true := by
  unfold isFile hasFile
  rw [Path.place, Entry.follow_filter]
  constructor
  · intro h
    split at h
    · rename_i entry hfind
      obtain ⟨hne, hwants, hfollow⟩ := find_eq_ok_iff.mp hfind
      rw [hfollow]
      exact ⟨hne, Bool.eq_false_iff.mpr fun hdirectory => hwants ⟨hdirectory, h⟩, h⟩
    · contradiction
  · rintro ⟨hne, hwants, h⟩
    split at h
    · rename_i entry hfollow
      have hspelling : ¬ (wantsDirectory path = true ∧ entry.isFile = true) := by
        rw [hwants]
        exact fun hboth => Bool.false_ne_true hboth.1
      rw [find_eq_ok_iff.mpr ⟨hne, hspelling, hfollow⟩]
      exact h
    · contradiction

theorem place_absolute_join (disk : Disk) (base : Path) {rest : Path}
    (h : rest.isAbsolute = false) :
    (disk.absolute (base.join rest)).place = (disk.absolute base).place ++ rest.place := by
  unfold absolute
  cases hbase : base.isAbsolute with
  | true =>
    rw [Path.join_of_isAbsolute _ hbase,
      Path.join_of_isAbsolute _ (Path.isAbsolute_join hbase rest), Path.place_join base h]
  | false =>
    have hjoin : (base.join rest).isAbsolute = false := by
      rw [Path.isAbsolute_join_of_relative base h, hbase]
    rw [Path.place_join _ hbase, Path.place_join _ hjoin, Path.place_join base h, List.append_assoc]

/-! ### Plain names -/

/-- **Plain name**: a single component, without a separator. -/
structure IsPlain (name : Path) : Prop where
  /-- It is one piece. -/
  separator : '/' ∉ name.text.toList
  /-- The piece has a meaning. -/
  idle : Path.isIdle name.text.toList = false
  /-- It is not a step to the parent. -/
  parent : name.text.toList ≠ ['.', '.']

section

variable {name : Path}

theorem IsPlain.splitOn (h : IsPlain name) :
    name.text.toList.splitOn '/' = [name.text.toList] :=
  List.splitOn_eq_singleton h.separator

theorem IsPlain.isAbsolute (h : IsPlain name) : name.isAbsolute = false :=
  Path.isAbsolute_of_separator_not_mem h.separator

theorem IsPlain.place (h : IsPlain name) : name.place = [.name name.text.toList] := by
  rw [Path.place_of_relative h.isAbsolute, Path.steps, h.splitOn, List.filterMap_cons,
    Path.componentOf, if_neg (Bool.eq_false_iff.mp h.idle), if_neg h.parent]
  rfl

end

/-- A path whose last piece has a meaning does not ask for a directory. -/
theorem wantsDirectory_of_getLast? {path : Path} {piece : List Char}
    (hlast : (path.text.toList.splitOn '/').getLast? = some piece)
    (hidle : Path.isIdle piece = false) : wantsDirectory path = false := by
  have hspell : (Path.spell path.text.toList).2.getLast? = some piece := by
    rcases Path.spell_cases path.text.toList with ⟨rest, htext, hspell⟩ |
      ⟨rest, htext, more, hmore, hspell⟩ | ⟨-, -, hspell⟩
    · rw [htext, Path.splitOn_separator_cons,
        List.getLast?_cons_of_ne_nil (List.splitOn_ne_nil '/' rest)] at hlast
      rw [hspell, hlast]
    · rw [htext, List.splitOn_cons_eq_if_modifyHead, hmore] at hlast
      rw [hspell]
      cases more with
      | nil =>
        obtain rfl := Option.some.inj hlast
        contradiction
      | cons piece' rest' => rw [← hlast]; rfl
    · rw [hspell, hlast]
  unfold wantsDirectory
  rw [hspell]
  show (Path.isIdle piece && _) = false
  rw [hidle, Bool.false_and]

/-- A spelling of the root asks for a directory. -/
theorem wantsDirectory_of_steps_eq_nil {path : Path} (habsolute : path.isAbsolute = true)
    (hsteps : path.steps = []) : wantsDirectory path = true := by
  rw [← Path.filterMap_spell] at hsteps
  rcases Path.spell_cases path.text.toList with ⟨rest, htext, hspell⟩ | ⟨_, htext, -⟩ |
    ⟨hhead, -⟩
  · have hpieces := List.splitOn_ne_nil '/' rest
    rw [hspell] at hsteps
    unfold wantsDirectory
    rw [hspell, List.getLast?_eq_some_getLast hpieces]
    show (Path.isIdle ((rest.splitOn '/').getLast hpieces) && !path.text.isEmpty) = true
    rw [Bool.and_eq_true, Bool.not_eq_true', String.isEmpty_eq_false_iff]
    refine ⟨?_, fun hempty => ?_⟩
    · -- no piece has a component, so the last one is idle
      by_contra hidle
      obtain ⟨c, hc⟩ := Path.exists_componentOf (Bool.eq_false_iff.mpr hidle)
      have hnone := List.filterMap_eq_nil_iff.mp hsteps _ (List.getLast_mem hpieces)
      rw [hc] at hnone
      contradiction
    · rw [hempty] at htext
      contradiction
  · rw [Path.isAbsolute, htext] at habsolute
    contradiction
  · exact absurd (beq_iff_eq.mp habsolute) hhead

/-- The last piece of a path below a directory is that of the second path. -/
theorem getLast?_splitOn_join (base : Path) {rest : Path} (h : rest.isAbsolute = false) :
    ((base.join rest).text.toList.splitOn '/').getLast?
      = (rest.text.toList.splitOn '/').getLast? := by
  have hne := List.splitOn_ne_nil '/' rest.text.toList
  rcases Path.join_cases base h with ⟨-, hjoin⟩ | ⟨front, -, hjoin⟩ | ⟨-, hjoin⟩
  · rw [hjoin]
  · rw [hjoin, List.splitOn_append_cons_self, List.getLast?_append_of_ne_nil _ hne]
  · rw [hjoin, List.splitOn_append_cons_self, List.getLast?_append_of_ne_nil _ hne]

/-- A plain name below a directory is spelled as neither empty nor a directory. -/
theorem IsPlain.spelling_join (directory : Path) {name : Path} (h : IsPlain name) :
    (directory.join name).text ≠ "" ∧ wantsDirectory (directory.join name) = false := by
  have hlast : ((directory.join name).text.toList.splitOn '/').getLast?
      = some name.text.toList := by
    rw [getLast?_splitOn_join directory h.isAbsolute, h.splitOn]
    rfl
  refine ⟨fun hempty => ?_, wantsDirectory_of_getLast? hlast h.idle⟩
  rw [hempty] at hlast
  have hnil : name.text.toList = [] := (Option.some.inj hlast).symm
  have hidle := h.idle
  rw [hnil] at hidle
  contradiction

/-- **A plain name below a directory** names a file iff there is one at that place. -/
theorem isFile_join_plain (disk : Disk) (directory : Path) {name : Path} (h : IsPlain name) :
    disk.isFile (directory.join name)
      = disk.hasFile ((disk.absolute directory).place ++ [.name name.text.toList]) := by
  obtain ⟨hne, hwants⟩ := h.spelling_join directory
  rw [Bool.eq_iff_iff, isFile_iff, place_absolute_join disk directory h.isAbsolute, h.place]
  exact and_iff_right hne |>.trans (and_iff_right hwants)

end Disk

/-! ### Names on a disk -/

namespace Entry

mutual

/-- **Named in order**: every name in the entry, at any depth, is fine. -/
def named (fine : String → Bool) : Entry → Bool
  | file _ => true
  | directory entries => allNamed fine entries

/-- Whether entries and the names they have are fine. -/
def allNamed (fine : String → Bool) : List (String × Entry) → Bool
  | [] => true
  | (name, entry) :: rest => fine name && entry.named fine && allNamed fine rest

end

variable {fine : String → Bool} {entries : List (String × Entry)}

theorem named_directory_iff :
    (directory entries).named fine = true ↔
      ∀ e ∈ entries, fine e.1 = true ∧ e.2.named fine = true := by
  rw [named]
  induction entries with
  | nil => exact iff_of_true rfl nofun
  | cons e entries ih =>
    rw [allNamed, Bool.and_eq_true, Bool.and_eq_true, ih, List.forall_mem_cons]

theorem mem_of_lookup {name : String} {entry : Entry} (h : entries.lookup name = some entry) :
    (name, entry) ∈ entries := by
  obtain ⟨front, back, rfl, -⟩ := List.lookup_eq_some_iff.mp h
  exact List.mem_append_right _ List.mem_cons_self

theorem named_of_lookup {name : String} {entry : Entry}
    (h : (directory entries).named fine = true) (hlookup : entries.lookup name = some entry) :
    fine name = true ∧ entry.named fine = true :=
  named_directory_iff.mp h _ (mem_of_lookup hlookup)

end Entry

/-- **What is found** on a disk with fine names has fine names. -/
theorem Disk.named_of_find {fine : String → Bool} {disk : Disk} {path : Path} {entry : Entry}
    (hnames : disk.root.named fine = true) (h : disk.find path = .ok entry) :
    entry.named fine = true := by
  obtain ⟨-, -, hfollow⟩ := find_eq_ok_iff.mp h
  refine Entry.follow_invariant (P := fun found => found.named fine = true) ?_
    (List.forall_mem_nil _) hnames hfollow
  exact fun hnamed hlookup => (Entry.named_of_lookup hnamed hlookup).2

end SuiteLint
