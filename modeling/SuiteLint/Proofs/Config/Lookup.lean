import SuiteLint.Config.Source
import SuiteLint.Proofs.Disk.Lookup

/-!
# Which configuration is found

The search for a project file is made on the text of the target.  Here it is compared with the
directories themselves: `Found disk top start` says that a source is the right one if the
directories from `start` up to `top` are looked at, nearest first.

`resolve_found_iff`: for an absolute target the search goes up to the root.  For a relative one it
ends at the working directory, whose own ancestors are not looked at.  So the nearest project file
of all is found iff the target is absolute, or there is one no higher than the working directory, or
there is none above it either.
-/

namespace SuiteLint.ConfigSource

open SuiteLint.Path (Component)

/-! ### Project files -/

/-- A directory has a project file, of either name. -/
def HasProjectFile (disk : Disk) (directory : List Component) : Prop :=
  disk.hasFile (directory ++ [.name "treelint.toml".toList]) = true ∨
    disk.hasFile (directory ++ [.name ".treelint.toml".toList]) = true

/-- **The project file of a directory**: the plain name is preferred to the one with a dot. -/
def IsProjectFile (disk : Disk) (directory file : List Component) : Prop :=
  disk.hasFile file = true ∧
    (file = directory ++ [.name "treelint.toml".toList] ∨
      file = directory ++ [.name ".treelint.toml".toList] ∧
        disk.hasFile (directory ++ [.name "treelint.toml".toList]) = false)

/-- No directory from `start` up to `top` has a project file. -/
def NoProjectFile (disk : Disk) (top start : List Component) : Prop :=
  ∀ directory, top <+: directory → directory <+: start → ¬ HasProjectFile disk directory

/-- **The nearest project file** from `start` up to `top`: that of a directory on the way, such that
no directory between it and `start` has one. -/
def IsNearest (disk : Disk) (top start file : List Component) : Prop :=
  ∃ directory, top <+: directory ∧ directory <+: start ∧ IsProjectFile disk directory file ∧
    ∀ nearer, directory <+: nearer → nearer ≠ directory → nearer <+: start →
      ¬ HasProjectFile disk nearer

/-- **The right source** if the directories from `start` up to `top` are looked at: the nearest
project file; where there is none, the file in the user's own directory; where that is missing,
none. -/
inductive Found (disk : Disk) (top start : List Component) (userDirectory : Option Path) :
    ConfigSource → Prop where
  /-- A project file. -/
  | project {path : Path} (nearest : IsNearest disk top start (disk.absolute path).place) :
      Found disk top start userDirectory (.project path)
  /-- The user's own file. -/
  | user {directory path : Path} (absent : NoProjectFile disk top start)
      (given : userDirectory = some directory)
      (place : (disk.absolute path).place
        = (disk.absolute directory).place ++ [.name "config.toml".toList])
      (file : disk.hasFile (disk.absolute path).place = true) :
      Found disk top start userDirectory (.user path)
  /-- No file at all. -/
  | defaults (absent : NoProjectFile disk top start)
      (missing : ∀ directory, userDirectory = some directory →
        disk.hasFile ((disk.absolute directory).place ++ [.name "config.toml".toList]) = false) :
      Found disk top start userDirectory .defaults

theorem IsProjectFile.hasProjectFile {disk : Disk} {directory file : List Component}
    (h : IsProjectFile disk directory file) : HasProjectFile disk directory := by
  obtain ⟨hfile, rfl | ⟨rfl, -⟩⟩ := h
  · exact Or.inl hfile
  · exact Or.inr hfile

section

variable {disk : Disk} {top start file : List Component} {c : Component}

/-- A directory without a project file below `start` does not change what is nearest. -/
theorem IsNearest.concat (h : IsNearest disk top start file)
    (hc : ¬ HasProjectFile disk (start ++ [c])) : IsNearest disk top (start ++ [c]) file := by
  obtain ⟨directory, htop, hstart, hfile, hnearer⟩ := h
  refine ⟨directory, htop, hstart.trans (List.prefix_append _ _), hfile, ?_⟩
  intro nearer hle hne hpre
  rcases List.prefix_concat_iff.mp hpre with rfl | hpre
  · exact hc
  · exact hnearer nearer hle hne hpre

/-- What is nearest on the way to some directory is nearest on the way beyond it. -/
theorem IsNearest.of_isPrefix {beyond : List Component} (h : IsNearest disk top start file)
    (hbeyond : beyond <+: top) : IsNearest disk beyond start file := by
  obtain ⟨directory, htop, hrest⟩ := h
  exact ⟨directory, hbeyond.trans htop, hrest⟩

/-- Where something is nearest, there is something. -/
theorem IsNearest.not_noProjectFile (h : IsNearest disk top start file) :
    ¬ NoProjectFile disk top start := by
  obtain ⟨directory, htop, hstart, hfile, -⟩ := h
  exact fun habsent => habsent directory htop hstart hfile.hasProjectFile

/-- Two parts of the way without a project file make a way without one. -/
theorem NoProjectFile.trans {beyond : List Component} (h : NoProjectFile disk top start)
    (hbeyond : NoProjectFile disk beyond top) (hstart : top <+: start) :
    NoProjectFile disk beyond start := by
  intro directory hle hpre
  rcases List.prefix_or_prefix_of_prefix hpre hstart with hbelow | habove
  · exact hbeyond directory hle hbelow
  · exact h directory habove hpre

theorem NoProjectFile.concat (h : NoProjectFile disk top start)
    (hc : ¬ HasProjectFile disk (start ++ [c])) : NoProjectFile disk top (start ++ [c]) := by
  intro directory htop hpre
  rcases List.prefix_concat_iff.mp hpre with rfl | hpre
  · exact hc
  · exact h directory htop hpre

theorem NoProjectFile.above {beyond : List Component} (h : NoProjectFile disk beyond start)
    (hstart : top <+: start) : NoProjectFile disk beyond top :=
  fun directory hle hpre => h directory hle (hpre.trans hstart)

/-- **Looking further up** makes no difference iff there is a project file on the shorter way, or
none on the rest of the longer one. -/
theorem Found.beyond_iff {beyond : List Component} {userDirectory : Option Path}
    {source : ConfigSource} (h : Found disk top start userDirectory source)
    (hbeyond : beyond <+: top) (hstart : top <+: start) :
    Found disk beyond start userDirectory source ↔
      ¬ NoProjectFile disk top start ∨ NoProjectFile disk beyond top := by
  cases h with
  | project nearest =>
    exact iff_of_true (.project (nearest.of_isPrefix hbeyond)) (Or.inl nearest.not_noProjectFile)
  | user absent given place file =>
    constructor
    · intro hbeyond_found
      cases hbeyond_found with
      | user habsent => exact Or.inr (habsent.above hstart)
    · rintro (hthere | hnone)
      · exact absurd absent hthere
      · exact .user (absent.trans hnone hstart) given place file
  | defaults absent missing =>
    constructor
    · intro hbeyond_found
      cases hbeyond_found with
      | defaults habsent => exact Or.inr (habsent.above hstart)
    · rintro (hthere | hnone)
      · exact absurd absent hthere
      · exact .defaults (absent.trans hnone hstart) missing

end

/-! ### One directory -/

theorem isPlain_projectName : ∀ name ∈ projectNames, Disk.IsPlain name := by
  intro name hname
  rcases List.mem_cons.mp hname with rfl | hname
  · exact ⟨by decide, by decide, by decide⟩
  · obtain rfl := List.mem_singleton.mp hname
    exact ⟨by decide, by decide, by decide⟩

theorem isPlain_userName : Disk.IsPlain userName :=
  ⟨by decide, by decide, by decide⟩

/-- The project file in a directory is the one that is found there. -/
theorem inDirectory?_spec (disk : Disk) (directory : Path) :
    (∃ path, inDirectory? disk directory = some path ∧
      IsProjectFile disk (disk.absolute directory).place (disk.absolute path).place) ∨
    (inDirectory? disk directory = none ∧
      ¬ HasProjectFile disk (disk.absolute directory).place) := by
  have hplain : Disk.IsPlain ⟨"treelint.toml"⟩ := isPlain_projectName _ (by decide)
  have hdotted : Disk.IsPlain ⟨".treelint.toml"⟩ := isPlain_projectName _ (by decide)
  have hplace := fun {name : Path} (h : Disk.IsPlain name) =>
    (Disk.place_absolute_join disk directory h.isAbsolute).trans (congrArg _ h.place)
  unfold inDirectory? projectNames HasProjectFile IsProjectFile
  rw [List.map_cons, List.map_cons, List.map_nil, List.find?_cons, List.find?_cons,
    List.find?_nil, Disk.isFile_join_plain disk directory hplain,
    Disk.isFile_join_plain disk directory hdotted]
  cases hfirst : disk.hasFile
    ((disk.absolute directory).place ++ [.name "treelint.toml".toList]) with
  | true => exact Or.inl ⟨_, rfl, by rw [hplace hplain]; exact ⟨hfirst, Or.inl rfl⟩⟩
  | false =>
    cases hsecond : disk.hasFile
      ((disk.absolute directory).place ++ [.name ".treelint.toml".toList]) with
    | true =>
      exact Or.inl ⟨_, rfl, by rw [hplace hdotted]; exact ⟨hsecond, Or.inr ⟨rfl, rfl⟩⟩⟩
    | false => exact Or.inr ⟨rfl, fun h => h.elim Bool.false_ne_true Bool.false_ne_true⟩

/-! ### The search upwards -/

theorem above?_eq (disk : Disk) (start : Path) :
    above? disk start = (inDirectory? disk start).or (start.parent?.bind (above? disk)) := by
  unfold above?
  rw [Path.ancestors_eq, List.findSome?_cons]
  cases inDirectory? disk start with
  | some path => rfl
  | none => cases start.parent? <;> rfl

/-- The uppermost directory that the search for a path comes to. -/
def topOf (disk : Disk) (path : Path) : List Component :=
  if path.isAbsolute then [.root] else disk.cwd.place

theorem place_absolute (disk : Disk) (path : Path) :
    (disk.absolute path).place = topOf disk path ++ path.steps := by
  unfold topOf Disk.absolute
  cases hpath : path.isAbsolute with
  | true =>
    rw [Path.join_of_isAbsolute _ hpath, Path.place_of_isAbsolute hpath]
    rfl
  | false =>
    rw [Path.place_join _ hpath, Path.place_of_relative hpath]
    rfl

/-- **The search upwards** finds the nearest project file there is from the place where it starts up
to its uppermost directory. -/
theorem above?_spec (disk : Disk) (start : Path) :
    (∃ path, above? disk start = some path ∧
      IsNearest disk (topOf disk start) (disk.absolute start).place (disk.absolute path).place) ∨
    (above? disk start = none ∧
      NoProjectFile disk (topOf disk start) (disk.absolute start).place) := by
  induction start using Path.parent_induction with
  | step start ih =>
  rw [above?_eq, place_absolute]
  rcases inDirectory?_spec disk start with ⟨path, hhere, hfile⟩ | ⟨hhere, hnone⟩
  · -- the directory itself has one, and nothing is nearer
    rw [place_absolute] at hfile
    rw [hhere]
    refine Or.inl ⟨path, rfl, _, List.prefix_append _ _, List.prefix_rfl, hfile, ?_⟩
    intro nearer hle hne hpre
    exact absurd (hpre.eq_of_length_le hle.length_le) hne
  rw [place_absolute] at hnone
  rw [hhere, Option.none_or]
  cases hparent : start.parent? with
  | none =>
    rw [Path.steps_of_parent?_eq_none hparent, List.append_nil] at hnone ⊢
    refine Or.inr ⟨rfl, fun directory hle hpre => ?_⟩
    rw [← hle.eq_of_length_le hpre.length_le]
    exact hnone
  | some above =>
    have htop : topOf disk above = topOf disk start := by
      rw [topOf, Path.isAbsolute_of_parent? hparent, topOf]
    have habove := ih above hparent
    rw [place_absolute, htop] at habove
    rw [Option.bind_some]
    rcases Path.steps_of_parent? hparent with ⟨hsteps, habove_steps⟩ | ⟨c, hsteps⟩
    · rw [hsteps, ← habove_steps]
      exact habove
    · -- the directory has none, so the nearest one is that of its parent
      rw [hsteps, ← List.append_assoc] at hnone ⊢
      rcases habove with ⟨path, hfound, hnearest⟩ | ⟨hfound, habsent⟩
      · exact Or.inl ⟨path, hfound, hnearest.concat hnone⟩
      · exact Or.inr ⟨hfound, habsent.concat hnone⟩

/-! ### The source -/

/-- The directory that a search for a target starts from: the target, or where it is a file, the
directory that it is in. -/
def searchStart (disk : Disk) (target : Path) : List Component :=
  if disk.isFile target then (disk.absolute target).place.dropLast
  else (disk.absolute target).place

/-- A path that names a file takes at least one step. -/
theorem steps_ne_nil_of_isFile {disk : Disk} {target : Path}
    (hcwd : disk.hasFile disk.cwd.place = false) (h : disk.isFile target = true) :
    target.steps ≠ [] := by
  obtain ⟨-, hwants, hfile⟩ := (disk.isFile_iff target).mp h
  intro hsteps
  cases habsolute : target.isAbsolute with
  | true =>
    rw [Disk.wantsDirectory_of_steps_eq_nil habsolute hsteps] at hwants
    contradiction
  | false =>
    rw [place_absolute, hsteps, List.append_nil, topOf, habsolute, if_neg Bool.false_ne_true,
      hcwd] at hfile
    contradiction

theorem isAbsolute_directoryOf (disk : Disk) (target : Path) :
    (directoryOf disk target).isAbsolute = target.isAbsolute := by
  unfold directoryOf
  split
  · cases hparent : target.parent? with
    | none => rfl
    | some above => exact Path.isAbsolute_of_parent? hparent
  · rfl

theorem topOf_directoryOf (disk : Disk) (target : Path) :
    topOf disk (directoryOf disk target) = topOf disk target := by
  rw [topOf, isAbsolute_directoryOf, topOf]

theorem place_directoryOf {disk : Disk} (hcwd : disk.hasFile disk.cwd.place = false)
    (target : Path) :
    (disk.absolute (directoryOf disk target)).place = searchStart disk target := by
  have htop := topOf_directoryOf disk target
  unfold directoryOf at htop ⊢
  unfold searchStart
  by_cases hfile : disk.isFile target = true
  · have hsteps := steps_ne_nil_of_isFile hcwd hfile
    rw [if_pos hfile] at htop ⊢
    rw [if_pos hfile]
    cases hparent : target.parent? with
    | none => exact absurd (Path.steps_of_parent?_eq_none hparent) hsteps
    | some above =>
      rw [hparent] at htop
      rcases Path.steps_of_parent? hparent with ⟨hnil, -⟩ | ⟨c, hc⟩
      · exact absurd hnil hsteps
      · rw [place_absolute disk target, hc, ← List.append_assoc, List.dropLast_concat, ← htop]
        exact place_absolute disk above
  · rw [if_neg hfile, if_neg hfile]

/-- **What is found** without a file that was asked for: the right source for the directories from
the target up to the root, or for a relative target, up to the working directory. -/
theorem resolve_found {disk : Disk} (hcwd : disk.hasFile disk.cwd.place = false)
    (target : Path) (userDirectory : Option Path) :
    Found disk (topOf disk target) (searchStart disk target) userDirectory
      (resolve disk target none userDirectory) := by
  have habove := above?_spec disk (directoryOf disk target)
  rw [topOf_directoryOf, place_directoryOf hcwd] at habove
  unfold resolve
  rcases habove with ⟨path, hfound, hnearest⟩ | ⟨hfound, habsent⟩
  · simp only [hfound]
    exact .project hnearest
  simp only [hfound]
  cases userDirectory with
  | none => exact .defaults habsent nofun
  | some directory =>
    have hfile := disk.isFile_join_plain directory isPlain_userName
    have hplace := (disk.place_absolute_join directory isPlain_userName.isAbsolute).trans
      (congrArg _ isPlain_userName.place)
    rw [Option.map_some, Option.filter_some, hfile]
    cases hhas : disk.hasFile
      ((disk.absolute directory).place ++ [.name userName.text.toList]) with
    | true =>
      exact .user habsent rfl hplace (by rw [hplace]; exact hhas)
    | false =>
      refine .defaults habsent fun directory' hgiven => ?_
      obtain rfl := Option.some.inj hgiven
      exact hhas

theorem topOf_prefix_searchStart {disk : Disk} (hcwd : disk.hasFile disk.cwd.place = false)
    (target : Path) : topOf disk target <+: searchStart disk target := by
  rw [← topOf_directoryOf, ← place_directoryOf hcwd, place_absolute]
  exact List.prefix_append _ _

/-- **When the nearest configuration is found**.  A file that was asked for is taken as it is.
Otherwise the search looks at the directories from the target up to the root, but for a relative
target only up to the working directory.  So it finds the right source for all the directories up to
the root iff the target is absolute, or some directory no higher than the working directory has a
project file, or no directory from there to the root has one. -/
theorem resolve_found_iff {disk : Disk} (habsolute : disk.cwd.isAbsolute = true)
    (hcwd : disk.hasFile disk.cwd.place = false) (target : Path) (userDirectory : Option Path) :
    (∀ path, resolve disk target (some path) userDirectory = .explicit path) ∧
      Found disk (if target.isAbsolute then [.root] else disk.cwd.place) (searchStart disk target)
        userDirectory (resolve disk target none userDirectory) ∧
      (Found disk [.root] (searchStart disk target) userDirectory
          (resolve disk target none userDirectory) ↔
        target.isAbsolute = true ∨
          (∃ directory, disk.cwd.place <+: directory ∧ directory <+: searchStart disk target ∧
            HasProjectFile disk directory) ∨
          ∀ directory, [.root] <+: directory → directory <+: disk.cwd.place →
            ¬ HasProjectFile disk directory) := by
  have hfound := resolve_found hcwd target userDirectory
  have hstart := topOf_prefix_searchStart hcwd target
  unfold topOf at hfound hstart
  refine ⟨fun _ => rfl, hfound, ?_⟩
  cases htarget : target.isAbsolute with
  | true =>
    rw [htarget] at hfound
    exact iff_of_true hfound (Or.inl rfl)
  | false =>
    rw [htarget, if_neg Bool.false_ne_true] at hfound hstart
    have hroot : [.root] <+: disk.cwd.place := by
      rw [Path.place_of_isAbsolute habsolute]
      exact ⟨disk.cwd.steps, rfl⟩
    rw [hfound.beyond_iff hroot hstart, or_iff_right Bool.false_ne_true]
    refine or_congr_left ?_
    unfold NoProjectFile
    push Not
    rfl

/-- A working directory `/repo/src` without a project file, below one that has it. -/
def diskWithFileAbove : Disk :=
  { root := .directory [("repo", .directory
      [("treelint.toml", .file ByteArray.empty), ("src", .directory [])])]
    cwd := ⟨"/repo/src"⟩ }

/-- For the absolute name of the working directory the file above it is found. -/
theorem resolve_found_iff_absoluteTarget :
    diskWithFileAbove.cwd.isAbsolute = true ∧
      diskWithFileAbove.hasFile diskWithFileAbove.cwd.place = false ∧
      resolve diskWithFileAbove ⟨"/repo/src"⟩ none none = .project ⟨"/repo/treelint.toml"⟩ ∧
      Found diskWithFileAbove [.root] (searchStart diskWithFileAbove ⟨"/repo/src"⟩) none
        (resolve diskWithFileAbove ⟨"/repo/src"⟩ none none) := by
  have hcwd : diskWithFileAbove.hasFile diskWithFileAbove.cwd.place = false := by decide +kernel
  refine ⟨by decide +kernel, hcwd, by decide +kernel, ?_⟩
  have hiff := (resolve_found_iff (by decide +kernel) hcwd ⟨"/repo/src"⟩ none).2.2
  exact hiff.mpr (Or.inl (by decide +kernel))

/-- **The file above the working directory is overlooked** for the target `.`, though the nearest
directory with a project file is the parent of the working directory. -/
theorem resolve_overlooks_fileAbove :
    IsNearest diskWithFileAbove [.root] (searchStart diskWithFileAbove ⟨"."⟩)
        (Path.mk "/repo/treelint.toml").place ∧
      resolve diskWithFileAbove ⟨"."⟩ none none = .defaults ∧
      ¬ Found diskWithFileAbove [.root] (searchStart diskWithFileAbove ⟨"."⟩) none
        (resolve diskWithFileAbove ⟨"."⟩ none none) := by
  have hstart : searchStart diskWithFileAbove ⟨"."⟩ = (Path.mk "/repo/src").place := by
    decide +kernel
  have hsource : (Path.mk "/repo/src").place
      = (Path.mk "/repo").place ++ [.name "src".toList] := by
    decide +kernel
  have hfile : IsProjectFile diskWithFileAbove (Path.mk "/repo").place
      (Path.mk "/repo/treelint.toml").place :=
    ⟨by decide +kernel, Or.inl (by decide +kernel)⟩
  have hnearest : IsNearest diskWithFileAbove [.root] (searchStart diskWithFileAbove ⟨"."⟩)
      (Path.mk "/repo/treelint.toml").place := by
    refine ⟨_, by decide +kernel, by rw [hstart]; decide +kernel, hfile, ?_⟩
    intro nearer hle hne hpre
    rw [hstart] at hpre
    rcases List.prefix_concat_iff.mp (hsource ▸ hpre) with rfl | hpre
    · -- only the working directory itself is nearer, and it is empty
      exact fun h => h.elim (by decide +kernel) (by decide +kernel)
    · exact absurd (hpre.eq_of_length_le hle.length_le) hne
  have hresolve : resolve diskWithFileAbove ⟨"."⟩ none none = .defaults := by decide +kernel
  refine ⟨hnearest, hresolve, ?_⟩
  rw [hresolve]
  intro hfound
  cases hfound with
  | defaults habsent => exact hnearest.not_noProjectFile habsent

end SuiteLint.ConfigSource
