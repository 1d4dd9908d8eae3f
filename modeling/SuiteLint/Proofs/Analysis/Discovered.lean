import SuiteLint.Analysis.Discovery
import SuiteLint.Config.Source
import SuiteLint.Proofs.Disk.Lookup

/-!
# Where discovered files are

A directory is walked by joining names to the path that was asked for.  As long as no name on the
disk contains a separator (`Entry.wellNamed`), all that is found this way is spelled as that path
is, relative or absolute, and lies below it (`Path.Above`).  A file that was asked for itself lies
below its directory.  So every discovered file is below the directory that stands for the target:
`above_of_mem_discover`.
-/

namespace SuiteLint

/-! ### Names on a disk -/

/-- Whether a name is without a separator. -/
def separatorFree (name : String) : Bool :=
  !name.toList.contains '/'

/-- **Well-named entry**: no name in it contains a separator. -/
def Entry.wellNamed (entry : Entry) : Bool :=
  entry.named separatorFree

theorem separatorFree_iff {name : String} : separatorFree name = true ↔ '/' ∉ name.toList := by
  simp [separatorFree]

/-! ### Walking -/

/-- `directory.Above path`: both are relative or both absolute, and the place of the second goes on
from that of the first. -/
structure Path.Above (directory path : Path) : Prop where
  /-- Both start from the same place. -/
  isAbsolute : path.isAbsolute = directory.isAbsolute
  /-- The one place begins the other. -/
  place : directory.place <+: path.place

namespace Path.Above

theorem refl (path : Path) : path.Above path :=
  ⟨rfl, List.prefix_rfl⟩

/-- Below what is below a directory is below the directory. -/
theorem trans {a b c : Path} (hab : a.Above b) (hbc : b.Above c) : a.Above c :=
  ⟨hbc.isAbsolute.trans hab.isAbsolute, hab.place.trans hbc.place⟩

theorem join (directory : Path) {name : String} (h : '/' ∉ name.toList) :
    directory.Above (directory.join ⟨name⟩) := by
  have hname : (Path.mk name).isAbsolute = false := isAbsolute_of_separator_not_mem h
  refine ⟨isAbsolute_join_of_relative directory hname, ?_⟩
  rw [place_join directory hname]
  exact List.prefix_append _ _

/-- The parent of a path that ends in a name. -/
theorem parent {path : Path} {name : List Char} (h : path.fileName? = some name) :
    ∃ directory, path.parent? = some directory ∧ directory.Above path := by
  obtain ⟨directory, hparent, hplace⟩ := place_of_fileName? h
  refine ⟨directory, hparent, (isAbsolute_of_parent? hparent).symm, ?_⟩
  rw [hplace]
  exact List.prefix_append _ _

end Path.Above

namespace Discovery

open SuiteLint.Ignore (Survey)

mutual

/-- **Walking an entry** finds files below its path. -/
theorem above_of_mem_filesBelow (survey : Survey) (path : Path) (entry : Entry)
    (hnames : entry.wellNamed = true) {file : Path} (h : file ∈ filesBelow survey path entry) :
    path.Above file := by
  match entry with
  | .file content =>
    obtain rfl := List.mem_singleton.mp h
    exact .refl _
  | .directory entries => exact above_of_mem_filesAmong _ path entries hnames h

/-- Walking the entries of a directory finds files below it. -/
theorem above_of_mem_filesAmong (survey : Survey) (path : Path) (entries : List (String × Entry))
    (hnames : (Entry.directory entries).wellNamed = true) {file : Path}
    (h : file ∈ filesAmong survey path entries) : path.Above file := by
  match entries with
  | [] => exact absurd h List.not_mem_nil
  | (name, entry) :: rest =>
    obtain ⟨⟨hname, hentry⟩, hrest⟩ :=
      List.forall_mem_cons.mp (Entry.named_directory_iff.mp hnames)
    rcases List.mem_append.mp h with h | h
    · split at h
      · exact absurd h List.not_mem_nil
      · have hbelow := above_of_mem_filesBelow survey _ entry hentry h
        exact (Path.Above.join path (separatorFree_iff.mp hname)).trans hbelow
    · exact above_of_mem_filesAmong survey path rest (Entry.named_directory_iff.mpr hrest) h

end

theorem fileName?_of_hasExtension {extensions : List String} {path : Path}
    (h : hasExtension extensions path = true) : ∃ name, path.fileName? = some name := by
  unfold hasExtension Path.extension? at h
  cases hname : path.fileName? with
  | none =>
    rw [hname] at h
    contradiction
  | some name => exact ⟨name, rfl⟩

/-- **Discovered files are below the directory that stands for the target**. -/
theorem above_of_mem_discover {analyzer : Analyzer} {disk : Disk} {env : Environment}
    (hnames : disk.root.wellNamed = true) {target file : Path}
    (h : file ∈ discover analyzer disk env target) :
    (ConfigSource.directoryOf disk target).Above file := by
  obtain ⟨hfound, hwanted⟩ := List.mem_filter.mp (List.mem_mergeSort.mp h)
  obtain ⟨hextension, -⟩ := Bool.and_eq_true_iff.mp hwanted
  unfold filesOf at hfound
  split at hfound
  · exact absurd hfound List.not_mem_nil
  split at hfound
  · exact absurd hfound List.not_mem_nil
  rename_i entry hfind
  unfold ConfigSource.directoryOf Disk.isFile
  rw [hfind]
  have hentry : entry.wellNamed = true := Disk.named_of_find hnames hfind
  cases entry with
  | directory entries => exact above_of_mem_filesBelow _ _ _ hentry hfound
  | file content =>
    -- a file with an extension has a name, and its directory is what comes before the name
    obtain rfl := List.mem_singleton.mp hfound
    obtain ⟨name, hname⟩ := fileName?_of_hasExtension hextension
    obtain ⟨directory, hparent, habove⟩ := Path.Above.parent hname
    rw [hparent]
    exact habove

end Discovery

end SuiteLint
