import SuiteLint.Proofs.Analysis.Files
import SuiteLint.Proofs.Disk.Descent
import SuiteLint.Proofs.Glob.SourcePattern
import SuiteLint.Proofs.Path.Order

/-!
# Which sources are collected

Sources are collected by a glob pattern that the root is part of.  What comes out is compared here
with what is wanted: `Analyzer.Wants` describes the paths below the root whose last name ends in a
configured extension and that are not left out.

`collectSources_eq_iff`: if no character of the root is a wildcard, collecting always succeeds, and
it gives every wanted path once, in path order, at which there is anything at all.  So it gives the
wanted files, and nothing else, iff no wanted path names a directory; if one does, the analysis as a
whole fails.  A root with a wildcard in it is taken for a pattern, and files below it are overlooked
(`collectSources_misled`).

The proof goes along the components of the pattern.  The pieces of the root lead to the directory
there (`expand_pieces`), or nowhere; from a directory the `**` leads to every entry below it
(`mem_expand_iff`, by induction on the height of the entry, which bounds the number of steps).
-/

namespace SuiteLint

open SuiteLint.Disk (IsPlain)

/-! ### Heights -/

theorem Entry.height_lt_of_lookup {entries : List (String × Entry)} {name : String} {entry : Entry}
    (h : entries.lookup name = some entry) : entry.height < (directory entries).height := by
  have hle : ∀ e ∈ entries, e.2.height ≤ height.heights entries := by
    clear h
    induction entries with
    | nil => nofun
    | cons first rest ih =>
      rw [height.heights]
      refine List.forall_mem_cons.mpr ⟨Nat.le_max_left _ _, fun e he => ?_⟩
      exact Nat.le_trans (ih e he) (Nat.le_max_right _ _)
  have hentry : entry.height ≤ height.heights entries := hle _ (mem_of_lookup h)
  rw [height]
  omega

theorem Disk.height_le_of_find {disk : Disk} {path : Path} {here : Entry}
    (h : disk.find path = .ok here) : here.height ≤ disk.root.height := by
  obtain ⟨-, -, hfollow⟩ := find_eq_ok_iff.mp h
  refine Entry.follow_invariant (P := fun entry => entry.height ≤ disk.root.height) ?_
    (List.forall_mem_nil _) (Nat.le_refl _) hfollow
  intro entries name entry hle hlookup
  have hlt := Entry.height_lt_of_lookup hlookup
  omega

namespace Glob

/-! ### Components of the root -/

section

variable {disk : Disk} {path : Path} {next : Pattern} {fuel : Nat}

theorem literal?_ofText (text : List Char) : (Pattern.ofText text).literal? = some text := by
  unfold Pattern.literal? Pattern.ofText
  induction text with
  | nil => rfl
  | cons c text ih =>
    rw [List.map_cons, List.mapM_cons, ih]
    rfl

theorem expand_ofText (text : List Char) (patterns : List Pattern) :
    expand disk (fuel + 1) (.ofText text :: patterns) path =
      if disk.exists? (path.join ⟨String.ofList text⟩)
      then expand disk fuel patterns (path.join ⟨String.ofList text⟩) else [] := by
  rw [expand, literal?_ofText]

theorem expand_everything :
    expand disk (fuel + 1) [.everything, next] path =
      (disk.list path).flatMap fun name =>
        expandBelow disk fuel [.everything, next] (path.join ⟨name⟩) := by
  have hliteral : Pattern.everything.literal? = none := rfl
  have hsteps : Pattern.everything.steps = [] := rfl
  have hrecursive : Pattern.everything.isRecursive = true := rfl
  rw [expand, hliteral]
  simp only [hsteps, hrecursive, if_true, ite_self, List.flatMap_nil, List.nil_append]

theorem expand_of_not_isDirectory (h : ¬ disk.isDirectory path = true) :
    expand disk fuel [.everything, next] path = [] := by
  cases fuel with
  | zero => rw [expand]
  | succ fuel => rw [expand_everything, Disk.list_eq_nil_of_not_isDirectory h, List.flatMap_nil]

/-- **The pieces of the root** lead to the directory there; if there is none, nothing is found. -/
theorem expand_pieces {pieces : List (List Char)} (hpath : path.isAbsolute = true)
    (hpieces : ∀ piece ∈ pieces, '/' ∉ piece) :
    expand disk (pieces.length + fuel) (pieces.map .ofText ++ [.everything, next]) path =
      expand disk fuel [.everything, next] (path.through (pieces.map String.ofList)) := by
  induction pieces generalizing path with
  | nil =>
    rw [List.length_nil, Nat.zero_add]
    rfl
  | cons piece pieces ih =>
    rw [List.forall_mem_cons] at hpieces
    have hjoined := Path.isAbsolute_join hpath ⟨String.ofList piece⟩
    rw [List.length_cons, Nat.add_right_comm, List.map_cons, List.cons_append, expand_ofText,
      ih hjoined hpieces.2, List.map_cons, Path.through_cons]
    by_cases hexists : disk.exists? (path.join ⟨String.ofList piece⟩) = true
    · rw [if_pos hexists]
    · -- no directory is found through something that does not exist
      rw [if_neg hexists]
      refine (expand_of_not_isDirectory fun hdirectory => hexists ?_).symm
      have hseparators : ∀ name ∈ pieces.map String.ofList, '/' ∉ name.toList := by
        rw [List.forall_mem_map]
        intro piece hpiece
        rw [String.toList_ofList]
        exact hpieces.2 piece hpiece
      have habove := Disk.isDirectory_of_through hjoined hseparators hdirectory
      exact Disk.exists?_iff.mpr (Or.inr habove)

/-! ### The recursive wildcard -/

theorem mem_expandBelow_iff {name : String} {found : Path} (hpath : path.isAbsolute = true)
    (hname : IsPlain ⟨name⟩) (hnext : next.isRecursive = false) :
    found ∈ expandBelow disk (fuel + 2) [.everything, next] (path.join ⟨name⟩) ↔
      (next.matchesAll name.toList = true ∧ found = path.join ⟨name⟩) ∨
        found ∈ expand disk (fuel + 1) [.everything, next] (path.join ⟨name⟩) := by
  have hfile := Disk.fileName?_join_plain hpath hname
  have hdeeper : (if disk.isDirectory (path.join ⟨name⟩)
      then expand disk (fuel + 1) [.everything, next] (path.join ⟨name⟩) else [])
        = expand disk (fuel + 1) [.everything, next] (path.join ⟨name⟩) := by
    split_ifs with hdirectory
    · rfl
    · rw [expand_of_not_isDirectory hdirectory]
  have hrest : [Pattern.everything, next].dropWhile Pattern.isRecursive = [next] := by
    have hrecursive : Pattern.everything.isRecursive = true := rfl
    rw [List.dropWhile_cons_of_pos hrecursive, List.dropWhile_cons_of_neg (by rw [hnext]; simp)]
  rw [expandBelow, hdeeper, hrest, hfile, List.mem_append]
  refine or_congr_left ?_
  by_cases hmatches : next.matchesAll name.toList = true
  · simp [hmatches, expand]
  · simp [hmatches]

/-- **The recursive wildcard** leads to every entry below a directory whose name matches. -/
theorem mem_expand_iff {found : Path} {here : Entry} (hnext : next.isRecursive = false)
    (hpath : path.isAbsolute = true) (hfind : disk.find path = .ok here)
    (hnames : here.plainlyNamed = true) (hfuel : 2 * here.height + 1 ≤ fuel) :
    found ∈ expand disk fuel [.everything, next] path ↔
      ∃ names name entry, here.below? (names ++ [name]) = some entry ∧
        next.matchesAll name.toList = true ∧ found = path.through (names ++ [name]) := by
  induction hheight : here.height using Nat.strong_induction_on generalizing path here fuel with
  | _ height ih =>
    cases here with
    | file content =>
      have hdirectory : ¬ disk.isDirectory path = true := by simp [Disk.isDirectory, hfind,
        Entry.isDirectory]
      rw [expand_of_not_isDirectory hdirectory]
      refine iff_of_false List.not_mem_nil ?_
      rintro ⟨names, name, entry, hbelow, -⟩
      cases names <;> simp [Entry.below?, Entry.children] at hbelow
    | directory entries =>
      have hpositive : 0 < (Entry.directory entries).height := by
        rw [Entry.height]
        omega
      obtain ⟨fuel, rfl⟩ : ∃ less, fuel = less + 1 + 2 := ⟨fuel - 3, by omega⟩
      have hlist : disk.list path = entries.map Prod.fst := by
        rw [Disk.list, hfind]
        rfl
      -- each entry of the directory is lower, and two steps suffice to come to it
      have hentry : ∀ {first : String} {lower : Entry}, entries.lookup first = some lower →
          (found ∈ expandBelow disk (fuel + 2) [.everything, next] (path.join ⟨first⟩) ↔
            (next.matchesAll first.toList = true ∧ found = path.join ⟨first⟩) ∨
              ∃ names name entry, lower.below? (names ++ [name]) = some entry ∧
                next.matchesAll name.toList = true ∧
                found = (path.join ⟨first⟩).through (names ++ [name])) := by
        intro first lower hlookup
        obtain ⟨hfirst, hnamed⟩ := Entry.plainlyNamed_of_lookup hnames hlookup
        have hlt := Entry.height_lt_of_lookup hlookup
        have hlower : disk.find (path.join ⟨first⟩) = .ok lower :=
          (Disk.find_join_plain hpath hfirst).mpr ⟨entries, hfind, hlookup⟩
        have henough : 2 * lower.height + 1 ≤ fuel + 1 := by omega
        rw [mem_expandBelow_iff hpath hfirst hnext, ih lower.height (by omega)
          (Path.isAbsolute_join hpath _) hlower hnamed henough rfl]
      rw [expand_everything, hlist, List.mem_flatMap]
      constructor
      · rintro ⟨first, hfirst, hmem⟩
        obtain ⟨lower, hlookup⟩ := Entry.exists_lookup_of_mem hfirst
        rcases (hentry hlookup).mp hmem with ⟨hmatches, rfl⟩ | ⟨names, name, entry, hbelow, hrest⟩
        · exact ⟨[], first, lower, by simp [Entry.below?, Entry.children, hlookup], hmatches, rfl⟩
        · refine ⟨first :: names, name, entry, ?_, hrest⟩
          simp [Entry.below?, Entry.children, hlookup, hbelow]
      · rintro ⟨names, name, entry, hbelow, hmatches, rfl⟩
        cases names with
        | nil =>
          obtain ⟨lower, hlookup, -⟩ := Option.bind_eq_some_iff.mp hbelow
          refine ⟨name, List.mem_map_of_mem (Entry.mem_of_lookup hlookup), ?_⟩
          exact (hentry hlookup).mpr (Or.inl ⟨hmatches, rfl⟩)
        | cons first names =>
          obtain ⟨lower, hlookup, hrest⟩ := Option.bind_eq_some_iff.mp hbelow
          refine ⟨first, List.mem_map_of_mem (Entry.mem_of_lookup hlookup), ?_⟩
          exact (hentry hlookup).mpr (Or.inr ⟨names, name, entry, hrest, hmatches, rfl⟩)

end

end Glob

namespace Analyzer

/-! ### Wanted paths -/

/-- `SourceBelow root extension path`: the path goes down from the root through plain names, and the
last of them ends in a dot and the extension. -/
def SourceBelow (root : Path) (extension : String) (path : Path) : Prop :=
  ∃ names name, (∀ n ∈ names ++ [name], IsPlain ⟨n⟩) ∧ '.' :: extension.toList <:+ name.toList ∧
    path = root.respelled.through (names ++ [name])

/-- **Wanted path** of an analyzer: it has a configured extension and is not left out. -/
def Wants (analyzer : Analyzer) (path : Path) : Prop :=
  (∃ extension ∈ analyzer.config.analyzer.extensions,
    SourceBelow analyzer.root extension path) ∧ analyzer.isExcluded path = false

/-- **Literal search**: the root is an absolute path, and no character of the root or of an
extension is a wildcard. -/
structure SearchesLiterally (analyzer : Analyzer) : Prop where
  absolute : analyzer.root.isAbsolute = true
  root : ∀ c ∈ analyzer.root.text.toList, Glob.Literal c
  extensions : ∀ extension ∈ analyzer.config.analyzer.extensions,
    ∀ c ∈ extension.toList, Glob.Literal c ∧ c ≠ '/'

section

variable {analyzer : Analyzer} {disk : Disk}

/-- Wanted paths that name the same place are spelled alike. -/
theorem Wants.eq_of_compare {a b : Path} (ha : analyzer.Wants a) (hb : analyzer.Wants b)
    (h : a.compare b = .eq) : a = b := by
  obtain ⟨⟨_, -, names, name, hplain, -, rfl⟩, -⟩ := ha
  obtain ⟨⟨_, -, names', name', hplain', -, rfl⟩, -⟩ := hb
  have hcomponents := (Path.compare_eq_iff _ _).mp h
  rw [Disk.through_injective (Path.isAbsolute_respelled _) hplain hplain' hcomponents]

theorem sourcesFor_eq_expand (disk : Disk) (h : analyzer.SearchesLiterally) {extension : String}
    (hextension : extension ∈ analyzer.config.analyzer.extensions) :
    ∃ fuel, 2 * disk.root.height + 1 ≤ fuel ∧ analyzer.sourcesFor disk extension =
      .ok (Glob.expand disk fuel [.everything, .endsIn ('.' :: extension.toList)]
        analyzer.root.respelled) := by
  obtain ⟨rest, htext⟩ : ∃ rest, analyzer.root.text.toList = '/' :: rest :=
    List.head?_eq_some_iff.mp (beq_iff_eq.mp h.absolute)
  have hroot := h.root
  rw [htext, List.forall_mem_cons] at hroot
  have hchars := h.extensions extension hextension
  have hwhole : (analyzer.root.text ++ "/**/*." ++ extension).toList
      = Glob.sourceText ('/' :: rest) extension.toList := by
    rw [String.toList_append, String.toList_append, htext, List.append_assoc]
    rfl
  have hseparator : '/' ∉ extension.toList := fun hmem => (hchars '/' hmem).2 rfl
  have hlast : ¬ ((Glob.sourceText ('/' :: rest) extension.toList).getLast? == some '/') = true :=
    fun hend => Glob.getLast?_sourceText_ne _ hseparator (beq_iff_eq.mp hend)
  have hpieces : ∀ piece ∈ rest.splitOn '/', '/' ∉ piece := fun piece hpiece =>
    Path.separator_not_mem_of_mem_splitOn hpiece
  -- the pieces of the root take one step each, out of two that are allowed for
  refine ⟨2 * disk.root.height + (rest.splitOn '/').length + 6, by omega, ?_⟩
  have hfuel : 2 * (disk.root.height + ((rest.splitOn '/').map Glob.Pattern.ofText ++
      ([.everything, .endsIn ('.' :: extension.toList)] : List Glob.Pattern)).length) + 2 =
      (rest.splitOn '/').length + (2 * disk.root.height + (rest.splitOn '/').length + 6) := by
    rw [List.length_append, List.length_map]
    simp only [List.length_cons, List.length_nil]
    omega
  unfold sourcesFor
  dsimp only
  rw [hwhole, Glob.components_sourceText hroot.2 hchars]
  show Except.ok (if _ then _ else _) = _
  rw [if_neg hlast, hfuel, Glob.expand_pieces rfl hpieces, ← Path.respelled_eq htext]

/-- **What the pattern for one extension leads to**: everything below the root, file or directory,
whose name ends in it. -/
theorem sourcesFor_eq_ok (h : analyzer.SearchesLiterally)
    (hnames : disk.root.plainlyNamed = true) {extension : String}
    (hextension : extension ∈ analyzer.config.analyzer.extensions) :
    ∃ found, analyzer.sourcesFor disk extension = .ok found ∧
      ∀ path, path ∈ found ↔
        SourceBelow analyzer.root extension path ∧ disk.exists? path = true := by
  obtain ⟨fuel, hfuel, hfound⟩ := sourcesFor_eq_expand disk h hextension
  have hbase := Path.isAbsolute_respelled analyzer.root
  refine ⟨_, hfound, fun path => ?_⟩
  by_cases hdirectory : disk.isDirectory analyzer.root.respelled = true
  · obtain ⟨entries, hfind⟩ := Disk.isDirectory_iff.mp hdirectory
    have hheight := Disk.height_le_of_find hfind
    have hnamed : (Entry.directory entries).plainlyNamed = true :=
      Disk.named_of_find hnames hfind
    rw [Glob.mem_expand_iff rfl hbase hfind hnamed (by omega)]
    constructor
    · rintro ⟨names, name, entry, hbelow, hmatches, rfl⟩
      have hplain := Entry.isPlain_of_below? hnamed hbelow
      have hentry := (Disk.find_through hbase hfind hplain).mpr hbelow
      refine ⟨⟨names, name, hplain, Glob.matchesAll_endsIn_iff.mp hmatches, rfl⟩, ?_⟩
      rw [Disk.exists?, hentry]
    · rintro ⟨⟨names, name, hplain, hsuffix, rfl⟩, hexists⟩
      unfold Disk.exists? at hexists
      split at hexists
      · rename_i entry hentry
        exact ⟨names, name, entry, (Disk.find_through hbase hfind hplain).mp hentry,
          Glob.matchesAll_endsIn_iff.mpr hsuffix, rfl⟩
      · contradiction
  · -- what exists below the root lies in a directory, and so the root would be one
    rw [Glob.expand_of_not_isDirectory hdirectory]
    refine iff_of_false List.not_mem_nil ?_
    rintro ⟨⟨names, name, hplain, -, rfl⟩, hexists⟩
    exact hdirectory (Disk.isDirectory_of_exists? hbase hplain hexists)

/-! ### Path order -/

theorem mem_of_mem_dropRepeats {path : Path} {paths : List Path}
    (h : path ∈ collectSources.dropRepeats paths) : path ∈ paths := by
  induction paths using collectSources.dropRepeats.induct with
  | case1 | case2 => rwa [collectSources.dropRepeats] at h
  | case3 a b rest heq ih =>
    rw [collectSources.dropRepeats, if_pos heq] at h
    rcases List.mem_cons.mp (ih h) with rfl | hrest
    · exact List.mem_cons_self
    · exact List.mem_cons_of_mem _ (List.mem_cons_of_mem _ hrest)
  | case4 a b rest hne ih =>
    rw [collectSources.dropRepeats, if_neg hne, List.mem_cons] at h
    rcases h with rfl | h
    · exact List.mem_cons_self
    · exact List.mem_cons_of_mem _ (ih h)

/-- Nothing gets lost, if only a path itself ties with it. -/
theorem mem_dropRepeats_iff {path : Path} {paths : List Path}
    (hties : ∀ a ∈ paths, ∀ b ∈ paths, a.compare b = .eq → a = b) :
    path ∈ collectSources.dropRepeats paths ↔ path ∈ paths := by
  refine ⟨mem_of_mem_dropRepeats, fun h => ?_⟩
  induction paths using collectSources.dropRepeats.induct with
  | case1 | case2 => rwa [collectSources.dropRepeats]
  | case3 a b rest heq ih =>
    obtain rfl : a = b := hties a List.mem_cons_self b (List.mem_cons_of_mem _ List.mem_cons_self)
      (beq_iff_eq.mp heq)
    have hfewer : ∀ x ∈ a :: rest, ∀ y ∈ a :: rest, x.compare y = .eq → x = y := fun x hx y hy =>
      hties x (List.mem_cons_of_mem _ hx) y (List.mem_cons_of_mem _ hy)
    rw [collectSources.dropRepeats, if_pos heq]
    rcases List.mem_cons.mp h with rfl | h
    · exact ih hfewer List.mem_cons_self
    · exact ih hfewer h
  | case4 a b rest hne ih =>
    have hfewer : ∀ x ∈ b :: rest, ∀ y ∈ b :: rest, x.compare y = .eq → x = y := fun x hx y hy =>
      hties x (List.mem_cons_of_mem _ hx) y (List.mem_cons_of_mem _ hy)
    rw [collectSources.dropRepeats, if_neg hne]
    rcases List.mem_cons.mp h with rfl | h
    · exact List.mem_cons_self
    · exact List.mem_cons_of_mem _ (ih hfewer h)

/-- What is sorted becomes strictly sorted. -/
theorem pairwise_dropRepeats {paths : List Path}
    (h : paths.Pairwise fun a b => (a.compare b).isLE = true) :
    (collectSources.dropRepeats paths).Pairwise fun a b => a.compare b = .lt := by
  induction paths using collectSources.dropRepeats.induct with
  | case1 =>
    rw [collectSources.dropRepeats]
    exact .nil
  | case2 a =>
    rw [collectSources.dropRepeats]
    exact List.pairwise_singleton _ a
  | case3 a b rest heq ih =>
    rw [collectSources.dropRepeats, if_pos heq]
    exact ih (h.sublist ((List.sublist_cons_self b rest).cons_cons a))
  | case4 a b rest hne ih =>
    rw [collectSources.dropRepeats, if_neg hne, List.pairwise_cons]
    obtain ⟨hfirst, hrest⟩ := List.pairwise_cons.mp h
    have hlt : a.compare b = .lt := by
      have hle := hfirst b List.mem_cons_self
      cases hab : a.compare b with
      | lt => rfl
      | eq => exact absurd (beq_iff_eq.mpr hab) hne
      | gt =>
        rw [hab] at hle
        contradiction
    refine ⟨fun x hx => ?_, ih hrest⟩
    rcases List.mem_cons.mp (mem_of_mem_dropRepeats hx) with rfl | hx
    · exact hlt
    · exact Std.TransCmp.lt_of_lt_of_isLE hlt ((List.pairwise_cons.mp hrest).1 x hx)

/-! ### Collecting -/

theorem collectSources_eq_ok (h : analyzer.SearchesLiterally)
    (hnames : disk.root.plainlyNamed = true) :
    ∃ sources, analyzer.collectSources disk = .ok sources ∧
      sources.Pairwise (fun a b => a.compare b = .lt) ∧
      ∀ path, path ∈ sources ↔ analyzer.Wants path ∧ disk.exists? path = true := by
  have heach := fun extension (hextension : extension ∈ analyzer.config.analyzer.extensions) =>
    sourcesFor_eq_ok h hnames hextension
  choose! found hfound hmem using heach
  have hall : analyzer.config.analyzer.extensions.mapM (analyzer.sourcesFor disk)
      = .ok (analyzer.config.analyzer.extensions.map found) := by
    rw [mapM_eq_ok_iff, List.map_map]
    exact List.map_congr_left fun extension hextension => (hfound extension hextension).symm
  have hkept : ∀ path, path ∈ (analyzer.config.analyzer.extensions.map found).flatten.filter
      (fun path => !analyzer.isExcluded path) ↔
        analyzer.Wants path ∧ disk.exists? path = true := by
    intro path
    rw [List.mem_filter, ← List.flatMap_def, List.mem_flatMap, Bool.not_eq_true']
    constructor
    · rintro ⟨⟨extension, hextension, hpath⟩, hexcluded⟩
      obtain ⟨hbelow, hexists⟩ := (hmem extension hextension path).mp hpath
      exact ⟨⟨⟨extension, hextension, hbelow⟩, hexcluded⟩, hexists⟩
    · rintro ⟨⟨⟨extension, hextension, hbelow⟩, hexcluded⟩, hexists⟩
      exact ⟨⟨extension, hextension, (hmem extension hextension path).mpr ⟨hbelow, hexists⟩⟩,
        hexcluded⟩
  have hsorted := List.pairwise_mergeSort (fun a b c => Std.TransCmp.isLE_trans)
    Path.isLE_compare_total ((analyzer.config.analyzer.extensions.map found).flatten.filter
      fun path => !analyzer.isExcluded path)
  refine ⟨_, ?_, pairwise_dropRepeats hsorted, fun path => ?_⟩
  · rw [collectSources, hall]
  · rw [mem_dropRepeats_iff, List.mem_mergeSort, hkept]
    intro a ha b hb
    exact ((hkept a).mp (List.mem_mergeSort.mp ha)).1.eq_of_compare
      ((hkept b).mp (List.mem_mergeSort.mp hb)).1

theorem not_analysable_of_isDirectory {path : Path} (h : disk.isDirectory path = true)
    (parse : Parser) : ¬ analyzer.Analysable disk parse path := by
  rintro ⟨content, found, hread, -⟩
  obtain ⟨entries, hfind⟩ := Disk.isDirectory_iff.mp h
  rw [Disk.readText, hfind] at hread
  contradiction

/-- **The sources that are collected**.  With no wildcard in the root and the extensions, collecting
succeeds and gives, strictly in path order, the wanted paths at which there is a file or a
directory.  These are exactly the wanted files iff no wanted path names a directory; and as soon as
one does, the analysis of the whole root fails. -/
theorem collectSources_eq_iff (h : analyzer.SearchesLiterally)
    (hnames : disk.root.plainlyNamed = true) :
    analyzer.root.respelled.components = analyzer.root.components ∧
      ∃ sources, analyzer.collectSources disk = .ok sources ∧
        sources.Pairwise (fun a b => a.compare b = .lt) ∧
        (∀ path, path ∈ sources ↔ analyzer.Wants path ∧ disk.exists? path = true) ∧
        ((∀ path, path ∈ sources ↔ analyzer.Wants path ∧ disk.isFile path = true) ↔
          ∀ path, analyzer.Wants path → disk.isDirectory path = false) ∧
        ((∃ path, analyzer.Wants path ∧ disk.isDirectory path = true) →
          ∀ parse, ∃ e, analyzer.analyze disk parse = .error e) := by
  obtain ⟨sources, hsources, hsorted, hmem⟩ := collectSources_eq_ok h hnames
  refine ⟨Path.components_respelled h.absolute, sources, hsources, hsorted, hmem, ?_, ?_⟩
  · constructor
    · intro hfiles path hwants
      by_contra hdirectory
      rw [Bool.not_eq_false] at hdirectory
      have hpath := (hmem path).mpr ⟨hwants, Disk.exists?_iff.mpr (Or.inr hdirectory)⟩
      have hfile := ((hfiles path).mp hpath).2
      rw [Disk.isFile_eq_false hdirectory] at hfile
      contradiction
    · intro hnone path
      rw [hmem, Disk.exists?_iff]
      refine and_congr_right fun hwants => ?_
      rw [hnone path hwants]
      simp
  · rintro ⟨path, hwants, hdirectory⟩ parse
    have hpath := (hmem path).mpr ⟨hwants, Disk.exists?_iff.mpr (Or.inr hdirectory)⟩
    cases hresult : analyzer.analyze disk parse with
    | error e => exact ⟨e, rfl⟩
    | ok result =>
      obtain ⟨files, hfiles, hanalyzed⟩ := bind_eq_ok_iff.mp hresult
      obtain rfl := Except.ok.inj (hsources.symm.trans hfiles)
      have hfine := (analyzeFiles_eq_ok_iff.mp hanalyzed).1 path hpath
      exact absurd hfine (not_analysable_of_isDirectory hdirectory parse)

end

/-! ### Directories and wildcards -/

/-- An analyzer of a root, with nothing configured. -/
def plainAnalyzer (root : Path) : Analyzer :=
  { root := root, rules := [], excludes := [], config := {}, failOnParseError := false }

/-- A disk with a file and with a directory whose name ends as that of a file does. -/
def diskWithOddDirectory : Disk :=
  { root := .directory [("repo", .directory
      [("a.ts", .file ByteArray.empty), ("dir.ts", .directory [])])]
    cwd := ⟨"/repo"⟩ }

/-- A disk with a file in a directory whose name is a pattern. -/
def diskWithBracket : Disk :=
  { root := .directory [("repo", .directory
      [("[x]", .directory [("a.ts", .file ByteArray.empty)])])]
    cwd := ⟨"/repo"⟩ }

/-- The directory is collected along with the file, and the analysis fails. -/
theorem collectSources_eq_iff_oddDirectory :
    ∃ sources, (plainAnalyzer ⟨"/repo"⟩).collectSources diskWithOddDirectory = .ok sources ∧
      ⟨"/repo/a.ts"⟩ ∈ sources ∧ ⟨"/repo/dir.ts"⟩ ∈ sources ∧
      ∀ parse, ∃ e, (plainAnalyzer ⟨"/repo"⟩).analyze diskWithOddDirectory parse = .error e := by
  have hliterally : (plainAnalyzer ⟨"/repo"⟩).SearchesLiterally := by
    constructor
    · rfl
    · simp [plainAnalyzer, Glob.Literal]
    · simp [plainAnalyzer, Glob.Literal]
  have hnames : diskWithOddDirectory.root.plainlyNamed = true := by decide
  obtain ⟨-, sources, hsources, -, hmem, -, hfails⟩ := collectSources_eq_iff hliterally hnames
  have hfile : (plainAnalyzer ⟨"/repo"⟩).Wants ⟨"/repo/a.ts"⟩ :=
    ⟨⟨"ts", by decide, [], "a.ts", by decide, by decide, by decide +kernel⟩, rfl⟩
  have hdirectory : (plainAnalyzer ⟨"/repo"⟩).Wants ⟨"/repo/dir.ts"⟩ :=
    ⟨⟨"ts", by decide, [], "dir.ts", by decide, by decide, by decide +kernel⟩, rfl⟩
  exact ⟨sources, hsources, (hmem _).mpr ⟨hfile, by decide +kernel⟩,
    (hmem _).mpr ⟨hdirectory, by decide +kernel⟩, hfails ⟨_, hdirectory, by decide +kernel⟩⟩

/-- **What collecting gets wrong**.  A directory is taken for a source, and the analysis fails over
it.  A root with brackets in its name is taken for a pattern: the file below it is overlooked, or,
with one bracket alone, the root is refused. -/
theorem collectSources_misled :
    (plainAnalyzer ⟨"/repo"⟩).collectSources diskWithOddDirectory
        = .ok [⟨"/repo/a.ts"⟩, ⟨"/repo/dir.ts"⟩] ∧
      diskWithOddDirectory.isFile ⟨"/repo/dir.ts"⟩ = false ∧
      (∀ parse, (plainAnalyzer ⟨"/repo"⟩).analyze diskWithOddDirectory parse
        = .error (.unreadable .isADirectory)) ∧
      (plainAnalyzer ⟨"/repo/[x]"⟩).collectSources diskWithBracket = .ok [] ∧
      diskWithBracket.isFile ⟨"/repo/[x]/a.ts"⟩ = true ∧
      (plainAnalyzer ⟨"/repo/[x"⟩).collectSources diskWithBracket = .error (.glob ⟨6, .range⟩) := by
  have hsources : (plainAnalyzer ⟨"/repo"⟩).collectSources diskWithOddDirectory
      = .ok [⟨"/repo/a.ts"⟩, ⟨"/repo/dir.ts"⟩] := by
    have hfound : (plainAnalyzer ⟨"/repo"⟩).config.analyzer.extensions.mapM
        ((plainAnalyzer ⟨"/repo"⟩).sourcesFor diskWithOddDirectory)
          = .ok [[⟨"/repo/a.ts"⟩, ⟨"/repo/dir.ts"⟩], []] := by
      decide +kernel
    have hsorted : [Path.mk "/repo/a.ts", ⟨"/repo/dir.ts"⟩].Pairwise
        (fun a b => (a.compare b).isLE = true) := by
      decide +kernel
    have hapart : ((Path.mk "/repo/a.ts").compare ⟨"/repo/dir.ts"⟩ == .eq) = false := by
      decide +kernel
    rw [collectSources, hfound]
    show Except.ok (collectSources.dropRepeats (List.mergeSort [_, _] _)) = _
    rw [List.mergeSort_of_pairwise hsorted, collectSources.dropRepeats, hapart,
      if_neg Bool.false_ne_true, collectSources.dropRepeats]
  have hempty : diskWithOddDirectory.readText ⟨"/repo/a.ts"⟩ = .ok "" := by decide +kernel
  have hdirectory : diskWithOddDirectory.readText ⟨"/repo/dir.ts"⟩ = .error .isADirectory := by
    decide +kernel
  refine ⟨hsources, by decide +kernel, fun parse => ?_, ?_, by decide +kernel, ?_⟩
  · have hfails : [Path.mk "/repo/a.ts", ⟨"/repo/dir.ts"⟩].mapM
        ((plainAnalyzer ⟨"/repo"⟩).analyzeFile diskWithOddDirectory parse)
          = .error (.unreadable .isADirectory) := by
      refine mapM_eq_error_iff.mpr ⟨[⟨"/repo/a.ts"⟩], ⟨"/repo/dir.ts"⟩, [], rfl, ?_, ?_⟩
      · refine List.forall_mem_singleton.mpr ⟨[], ?_⟩
        rw [analyzeFile, hempty]
        exact if_neg (by simp [plainAnalyzer])
      · rw [analyzeFile, hdirectory]
    rw [analyze, hsources]
    show analyzeFiles _ _ _ _ = _
    rw [analyzeFiles, hfails]
    rfl
  · have hfound : (plainAnalyzer ⟨"/repo/[x]"⟩).config.analyzer.extensions.mapM
        ((plainAnalyzer ⟨"/repo/[x]"⟩).sourcesFor diskWithBracket) = .ok [[], []] := by
      decide +kernel
    rw [collectSources, hfound]
    show Except.ok (collectSources.dropRepeats (List.mergeSort [] _)) = _
    rw [List.mergeSort_nil, collectSources.dropRepeats]
  · have hrefused : (plainAnalyzer ⟨"/repo/[x"⟩).config.analyzer.extensions.mapM
        ((plainAnalyzer ⟨"/repo/[x"⟩).sourcesFor diskWithBracket) = .error ⟨6, .range⟩ := by
      decide +kernel
    rw [collectSources, hrefused]

end Analyzer

end SuiteLint
