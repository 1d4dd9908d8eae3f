import SuiteLint.Proofs.Disk.Lookup

/-!
# Going down through directories

A path below a directory is made by joining one name after the other (`Path.through`).  On a disk
whose names are plain (`Entry.plainlyNamed`), what such a path leads to can be read off the
directory itself: `find_through` says that it is the entry that the names lead to inside of it
(`Entry.below?`).  The names can be read off the path (`through_injective`).

The spelling of a directory may have steps without meaning in it, such as `.`, and steps to the
parent.  Whatever it is, a directory is only found through directories (`isDirectory_of_through`).
-/

namespace SuiteLint

open SuiteLint.Path (Component)

/-! ### Paths through names -/

namespace Path

/-- **Path through names** below a directory. -/
def through (base : Path) (names : List String) : Path :=
  names.foldl (fun path name => path.join ⟨name⟩) base

theorem through_cons (base : Path) (name : String) (names : List String) :
    base.through (name :: names) = (base.join ⟨name⟩).through names :=
  rfl

theorem through_append (base : Path) (names more : List String) :
    base.through (names ++ more) = (base.through names).through more :=
  List.foldl_append

theorem isAbsolute_through {base : Path} (h : base.isAbsolute = true) (names : List String) :
    (base.through names).isAbsolute = true := by
  induction names generalizing base with
  | nil => exact h
  | cons name names ih => exact ih (isAbsolute_join h _)

/-- **Joining a single piece** adds its component. -/
theorem components_join_piece {base piece : Path} (hbase : base.isAbsolute = true)
    (h : '/' ∉ piece.text.toList) :
    (base.join piece).components = base.components ++ (componentOf piece.text.toList).toList := by
  have hsteps : piece.steps = (componentOf piece.text.toList).toList := by
    rw [steps, List.splitOn_eq_singleton h, List.filterMap_cons]
    cases componentOf piece.text.toList <;> rfl
  rw [components_of_isAbsolute (isAbsolute_join hbase piece),
    steps_join base (isAbsolute_of_separator_not_mem h), components_of_isAbsolute hbase, hsteps,
    List.cons_append]

theorem components_through_pieces {base : Path} {pieces : List String}
    (hbase : base.isAbsolute = true) (h : ∀ piece ∈ pieces, '/' ∉ piece.toList) :
    (base.through pieces).components
      = base.components ++ (pieces.map String.toList).filterMap componentOf := by
  induction pieces generalizing base with
  | nil => exact (List.append_nil _).symm
  | cons piece pieces ih =>
    rw [List.forall_mem_cons] at h
    rw [through_cons, ih (isAbsolute_join hbase _) h.2, components_join_piece hbase h.1,
      List.append_assoc, List.map_cons, List.filterMap_cons]
    cases componentOf piece.toList <;> rfl

/-- **The same path, respelled**: the pieces of an absolute path, joined one after the other. -/
def respelled (path : Path) : Path :=
  through ⟨"/"⟩ ((path.text.toList.splitOn '/').tail.map String.ofList)

theorem isAbsolute_respelled (path : Path) : path.respelled.isAbsolute = true :=
  isAbsolute_through rfl _

theorem respelled_eq {path : Path} {rest : List Char} (h : path.text.toList = '/' :: rest) :
    path.respelled = through ⟨"/"⟩ ((rest.splitOn '/').map String.ofList) := by
  rw [respelled, h, splitOn_separator_cons, List.tail_cons]

theorem separator_not_mem_of_mem_pieces {rest : List Char} {piece : String}
    (h : piece ∈ (rest.splitOn '/').map String.ofList) : '/' ∉ piece.toList := by
  obtain ⟨chars, hchars, rfl⟩ := List.mem_map.mp h
  rw [String.toList_ofList]
  exact separator_not_mem_of_mem_splitOn hchars

/-- **Respelling** a path keeps its components. -/
theorem components_respelled {path : Path} (h : path.isAbsolute = true) :
    path.respelled.components = path.components := by
  obtain ⟨rest, htext⟩ : ∃ rest, path.text.toList = '/' :: rest :=
    List.head?_eq_some_iff.mp (beq_iff_eq.mp h)
  have hpieces : ((rest.splitOn '/').map String.ofList).map String.toList = rest.splitOn '/' := by
    rw [List.map_map]
    exact (List.map_congr_left fun piece _ => String.toList_ofList).trans (List.map_id _)
  have hsteps : path.steps = (rest.splitOn '/').filterMap componentOf := by
    rw [steps, htext, splitOn_separator_cons]
    rfl
  have hroot : components ⟨"/"⟩ = [.root] := rfl
  rw [respelled_eq htext, components_through_pieces rfl fun _ => separator_not_mem_of_mem_pieces,
    hpieces, components_of_isAbsolute h, hsteps, hroot, List.singleton_append]

end Path

namespace Disk

section

variable {base : Path} {name : String} {names : List String}

theorem IsPlain.componentOf (h : IsPlain ⟨name⟩) :
    Path.componentOf name.toList = some (.name name.toList) := by
  rw [Path.componentOf, if_neg (Bool.eq_false_iff.mp h.idle), if_neg h.parent]

theorem components_join_plain (hbase : base.isAbsolute = true) (h : IsPlain ⟨name⟩) :
    (base.join ⟨name⟩).components = base.components ++ [.name name.toList] := by
  rw [Path.components_join_piece hbase h.separator, h.componentOf]
  rfl

theorem fileName?_join_plain (hbase : base.isAbsolute = true) (h : IsPlain ⟨name⟩) :
    (base.join ⟨name⟩).fileName? = some name.toList := by
  rw [Path.fileName?, components_join_plain hbase h, List.getLast?_concat]

theorem components_through (hbase : base.isAbsolute = true) (h : ∀ name ∈ names, IsPlain ⟨name⟩) :
    (base.through names).components
      = base.components ++ names.map fun name => .name name.toList := by
  have hseparators : ∀ piece ∈ names, '/' ∉ piece.toList := fun name hname =>
    (h name hname).separator
  have hplain : (names.map String.toList).filterMap Path.componentOf
      = names.map fun name => .name name.toList := by
    rw [List.filterMap_map, ← List.filterMap_eq_map]
    exact List.filterMap_congr fun name hname => (h name hname).componentOf
  rw [Path.components_through_pieces hbase hseparators, hplain]

/-- **The names can be read off** a path through them. -/
theorem through_injective {names' : List String} (hbase : base.isAbsolute = true)
    (h : ∀ name ∈ names, IsPlain ⟨name⟩) (h' : ∀ name ∈ names', IsPlain ⟨name⟩)
    (heq : (base.through names).components = (base.through names').components) :
    names = names' := by
  rw [components_through hbase h, components_through hbase h', List.append_right_inj] at heq
  have hinjective : Function.Injective fun name : String => Component.name name.toList :=
    fun a b hab => String.toList_inj.mp (Component.name.inj hab)
  exact hinjective.list_map heq

end

end Disk

/-! ### Entries through names -/

namespace Entry

/-- **The entry that names lead to**. -/
def below? : Entry → List String → Option Entry
  | here, [] => some here
  | here, name :: names => (here.children.lookup name).bind fun entry => entry.below? names

/-- Following components in two parts: the first part fails, or it comes to an entry from which the
second one goes on. -/
theorem follow_append (above : List Entry) (here : Entry) (components : List Component) :
    (∃ e, follow above here components = .error e ∧
      ∀ rest, follow above here (components ++ rest) = .error e) ∨
    ∃ entry above', follow above here components = .ok entry ∧
      ∀ rest, follow above here (components ++ rest) = follow above' entry rest := by
  induction components generalizing above here with
  | nil => exact Or.inr ⟨here, above, rfl, fun _ => rfl⟩
  | cons c components ih =>
    cases c with
    | root | current => exact ih above here
    | parent =>
      cases here with
      | file content => exact Or.inl ⟨.notADirectory, rfl, fun _ => rfl⟩
      | directory entries =>
        cases above with
        | nil => exact ih [] _
        | cons up above => exact ih above up
    | name n =>
      cases here with
      | file content => exact Or.inl ⟨.notADirectory, rfl, fun _ => rfl⟩
      | directory entries =>
        simp only [List.cons_append, follow]
        cases entries.lookup (String.ofList n) with
        | none => exact Or.inl ⟨.notFound, rfl, fun _ => rfl⟩
        | some entry => exact ih _ entry

theorem follow_concat_name {here entry : Entry} {components : List Component} {n : List Char} :
    follow [] here (components ++ [.name n]) = .ok entry ↔
      ∃ entries, follow [] here components = .ok (.directory entries) ∧
        entries.lookup (String.ofList n) = some entry := by
  rcases follow_append [] here components with ⟨e, hfails, hrest⟩ | ⟨mid, above, hfound, hrest⟩
  · rw [hrest, hfails]
    simp
  · rw [hrest, hfound]
    cases mid with
    | file content => simp [follow]
    | directory entries =>
      simp only [follow, Except.ok.injEq, directory.injEq, exists_eq_left']
      cases hlookup : entries.lookup (String.ofList n) with
      | none => simp
      | some next =>
        show Except.ok next = .ok entry ↔ some next = some entry
        rw [Except.ok.injEq, Option.some.injEq]

theorem below?_concat (here : Entry) (names : List String) (name : String) :
    here.below? (names ++ [name]) = (here.below? names).bind fun entry =>
      entry.children.lookup name := by
  induction names generalizing here with
  | nil =>
    show (here.children.lookup name).bind some = here.children.lookup name
    cases here.children.lookup name <;> rfl
  | cons first names ih =>
    simp only [List.cons_append, below?, ih, Option.bind_assoc]

end Entry

/-! ### Names on a disk -/

instance : DecidablePred Disk.IsPlain := fun name =>
  decidable_of_iff ('/' ∉ name.text.toList ∧ Path.isIdle name.text.toList = false ∧
      name.text.toList ≠ ['.', '.'])
    ⟨fun ⟨separator, idle, parent⟩ => ⟨separator, idle, parent⟩,
      fun h => ⟨h.separator, h.idle, h.parent⟩⟩

namespace Entry

/-- **Plainly named entry**: every name in it is plain. -/
def plainlyNamed (entry : Entry) : Bool :=
  entry.named fun name => decide (Disk.IsPlain ⟨name⟩)

/-- Every name of a directory leads to an entry. -/
theorem exists_lookup_of_mem {entries : List (String × Entry)} {name : String}
    (h : name ∈ entries.map Prod.fst) : ∃ entry, entries.lookup name = some entry := by
  refine Option.ne_none_iff_exists'.mp fun hnone => ?_
  obtain ⟨e, he, rfl⟩ := List.mem_map.mp h
  exact absurd (List.lookup_eq_none_iff.mp hnone e he) (by simp)

theorem plainlyNamed_of_lookup {entries : List (String × Entry)} {name : String} {entry : Entry}
    (h : (directory entries).plainlyNamed = true) (hlookup : entries.lookup name = some entry) :
    Disk.IsPlain ⟨name⟩ ∧ entry.plainlyNamed = true :=
  (named_of_lookup h hlookup).imp_left of_decide_eq_true

/-- Names that lead somewhere are plain. -/
theorem isPlain_of_below? {here entry : Entry} {names : List String}
    (hhere : here.plainlyNamed = true) (h : here.below? names = some entry) :
    ∀ name ∈ names, Disk.IsPlain ⟨name⟩ := by
  induction names generalizing here with
  | nil => nofun
  | cons name names ih =>
    obtain ⟨next, hlookup, hnext⟩ := Option.bind_eq_some_iff.mp h
    cases here with
    | file content => nomatch hlookup
    | directory entries =>
      obtain ⟨hname, hnamed⟩ := plainlyNamed_of_lookup hhere hlookup
      exact List.forall_mem_cons.mpr ⟨hname, ih hnamed hnext⟩

end Entry

/-! ### Looking up below a directory -/

namespace Disk

variable {disk : Disk} {base : Path}

theorem find_eq_ok_iff_of_isAbsolute (hbase : base.isAbsolute = true) {entry : Entry} :
    disk.find base = .ok entry ↔ ¬ (wantsDirectory base = true ∧ entry.isFile = true) ∧
      Entry.follow [] disk.root base.components = .ok entry := by
  have hne : base.text ≠ "" := by
    intro hempty
    rw [Path.isAbsolute, hempty] at hbase
    contradiction
  rw [find_eq_ok_iff, absolute, Path.join_of_isAbsolute _ hbase, and_iff_right hne]

theorem isDirectory_iff :
    disk.isDirectory base = true ↔ ∃ entries, disk.find base = .ok (.directory entries) := by
  unfold isDirectory
  cases disk.find base with
  | error e => simp
  | ok entry => cases entry <;> simp [Entry.isDirectory]

theorem exists?_iff :
    disk.exists? base = true ↔ disk.isFile base = true ∨ disk.isDirectory base = true := by
  unfold exists? isFile isDirectory
  cases disk.find base with
  | error e => simp
  | ok entry => cases entry <;> simp [Entry.isFile, Entry.isDirectory]

theorem isFile_eq_false (h : disk.isDirectory base = true) : disk.isFile base = false := by
  obtain ⟨entries, hfind⟩ := isDirectory_iff.mp h
  rw [isFile, hfind]
  rfl

theorem list_eq_nil_of_not_isDirectory (h : ¬ disk.isDirectory base = true) :
    disk.list base = [] := by
  unfold list
  unfold isDirectory at h
  cases hfind : disk.find base with
  | error e => rfl
  | ok entry =>
    rw [hfind] at h
    cases entry with
    | file content => rfl
    | directory entries => exact absurd rfl h

/-- **A name below a path** leads to an entry of the directory there. -/
theorem find_join_plain (hbase : base.isAbsolute = true) {name : String} (h : IsPlain ⟨name⟩)
    {entry : Entry} :
    disk.find (base.join ⟨name⟩) = .ok entry ↔
      ∃ entries, disk.find base = .ok (.directory entries) ∧ entries.lookup name = some entry := by
  obtain ⟨-, hwants⟩ := h.spelling_join base
  rw [find_eq_ok_iff_of_isAbsolute (Path.isAbsolute_join hbase _), hwants,
    components_join_plain hbase h, Entry.follow_concat_name, String.ofList_toList]
  simp only [find_eq_ok_iff_of_isAbsolute hbase, Entry.isFile, Bool.false_eq_true, false_and,
    and_false, not_false_eq_true, true_and]

/-- **What a path through names leads to** is what the names lead to. -/
theorem find_through {here : Entry} {names : List String} (hbase : base.isAbsolute = true)
    (hfind : disk.find base = .ok here) (h : ∀ name ∈ names, IsPlain ⟨name⟩) {entry : Entry} :
    disk.find (base.through names) = .ok entry ↔ here.below? names = some entry := by
  induction names using List.reverseRecOn generalizing entry with
  | nil =>
    show disk.find base = .ok entry ↔ some here = some entry
    rw [hfind, Except.ok.injEq, Option.some.injEq]
  | append_singleton names name ih =>
    obtain ⟨hnames, hname⟩ := List.forall_mem_append.mp h
    have hthrough : (base.through names).isAbsolute = true := Path.isAbsolute_through hbase names
    rw [Path.through_append, Entry.below?_concat, Option.bind_eq_some_iff]
    refine (find_join_plain hthrough (hname name (List.mem_singleton_self name))).trans ?_
    simp only [ih hnames]
    constructor
    · rintro ⟨entries, hbelow, hlookup⟩
      exact ⟨_, hbelow, hlookup⟩
    · rintro ⟨next, hbelow, hlookup⟩
      cases next with
      | file content => nomatch hlookup
      | directory entries => exact ⟨entries, hbelow, hlookup⟩

/-- A piece of any kind leads on only from a directory, if it leads to one. -/
theorem isDirectory_of_join {piece : Path} (hbase : base.isAbsolute = true)
    (hpiece : '/' ∉ piece.text.toList) (h : disk.isDirectory (base.join piece) = true) :
    disk.isDirectory base = true := by
  obtain ⟨entries, hfind⟩ := isDirectory_iff.mp h
  obtain ⟨-, hfollow⟩ :=
    (find_eq_ok_iff_of_isAbsolute (Path.isAbsolute_join hbase piece)).mp hfind
  rw [Path.components_join_piece hbase hpiece] at hfollow
  rcases Entry.follow_append [] disk.root base.components with ⟨e, -, hrest⟩ |
    ⟨mid, above, hmid, hrest⟩
  · rw [hrest] at hfollow
    contradiction
  rw [hrest] at hfollow
  cases mid with
  | directory found =>
    refine isDirectory_iff.mpr ⟨found, (find_eq_ok_iff_of_isAbsolute hbase).mpr ⟨?_, hmid⟩⟩
    exact fun hfile => Bool.false_ne_true hfile.2
  | file content =>
    -- from a file no component leads on, and without one the file itself would be the directory
    cases hcomponent : Path.componentOf piece.text.toList with
    | none =>
      rw [hcomponent] at hfollow
      nomatch Except.ok.inj hfollow
    | some c =>
      rw [hcomponent] at hfollow
      cases c with
      | root => exact absurd rfl (Path.componentOf_ne hcomponent).1
      | current => exact absurd rfl (Path.componentOf_ne hcomponent).2
      | parent => nomatch hfollow
      | name n => nomatch hfollow

/-- **A directory is found through directories**. -/
theorem isDirectory_of_through {pieces : List String} (hbase : base.isAbsolute = true)
    (hpieces : ∀ piece ∈ pieces, '/' ∉ piece.toList)
    (h : disk.isDirectory (base.through pieces) = true) : disk.isDirectory base = true := by
  induction pieces generalizing base with
  | nil => exact h
  | cons piece pieces ih =>
    rw [List.forall_mem_cons] at hpieces
    have hnext := ih (Path.isAbsolute_join hbase _) hpieces.2 h
    exact isDirectory_of_join hbase hpieces.1 hnext

/-- What exists below a path lies in a directory, and so the path is that of a directory. -/
theorem isDirectory_of_exists? {names : List String} {name : String}
    (hbase : base.isAbsolute = true) (h : ∀ n ∈ names ++ [name], IsPlain ⟨n⟩)
    (hexists : disk.exists? (base.through (names ++ [name])) = true) :
    disk.isDirectory base = true := by
  obtain ⟨hnames, hname⟩ := List.forall_mem_append.mp h
  have hthrough := Path.isAbsolute_through hbase names
  unfold exists? at hexists
  split at hexists
  · rename_i entry hentry
    rw [Path.through_append] at hentry
    obtain ⟨entries, hfind, -⟩ :=
      (find_join_plain hthrough (hname name (List.mem_singleton_self name))).mp hentry
    refine isDirectory_of_through hbase (fun n hn => (hnames n hn).separator) ?_
    exact isDirectory_iff.mpr ⟨entries, hfind⟩
  · contradiction

end Disk

end SuiteLint
