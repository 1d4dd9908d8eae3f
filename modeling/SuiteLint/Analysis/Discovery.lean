import SuiteLint.Analysis.Analyzer
import SuiteLint.Ignore.UserWide

/-!
# Discovery

Finds the files to check from what was asked for: a file is taken as it is, a directory is walked
from top to bottom.  Ignore files apply on the way, those above the directory included, and what
they pass over is not entered.
-/

namespace SuiteLint.Discovery

open SuiteLint.Ignore (Frame Survey)

/-! ### Walking -/

mutual

/-- The files at and below an entry, by a survey of what is around it. -/
def filesBelow (survey : Survey) (path : Path) : Entry → List Path
  | .file _ => [path]
  | .directory entries => filesAmong (survey.enter path (.directory entries)) path entries

/-- The files at and below the entries of a directory, by a survey inside it. -/
def filesAmong (survey : Survey) (path : Path) : List (String × Entry) → List Path
  | [] => []
  | (name, entry) :: rest =>
    (if survey.passesOver entry.isDirectory (path.join ⟨name⟩) then []
     else filesBelow survey (path.join ⟨name⟩) entry) ++ filesAmong survey path rest

end

/-! ### Directories above -/

/-- The frames of the directories above the one that names lead to, nearest first; `passed` holds
the names up to the directory `here`, and `above` the frames of the directories over it. -/
def framesAbove (disk : Disk) (above : List Frame) (passed : List String) (here : Entry) :
    List String → List Frame
  | [] => above
  | name :: rest =>
    let frames := Frame.ofDirectory disk (Disk.pathThrough passed) here :: above
    match here.children.lookup name with
    | some next => framesAbove disk frames (passed ++ [name]) next rest
    | none => frames

/-! ### Targets -/

/-- **Files of a target**: none if there is nothing there.  A lone hyphen stands for the standard
input, which has no files. -/
def filesOf (disk : Disk) (env : Environment) (honour : Bool) (target : Path) : List Path :=
  if target.text = "-" then []
  else
    match disk.find target with
    | .error _ => []
    | .ok entry =>
      let survey : Survey :=
        { disk := disk, honour := honour, target := target, resolved := disk.resolved target
          above := if honour then framesAbove disk [] [] disk.root (disk.namesTo target) else []
          userWide := if honour then Ignore.userRules disk env else [] }
      filesBelow survey target entry

/-- Whether a path has one of the extensions. -/
def hasExtension (extensions : List String) (path : Path) : Bool :=
  match path.extension? with
  | some extension => extensions.contains (String.ofList extension)
  | none => false

/-- **Discovering** the files to check, in path order. -/
def discover (analyzer : Analyzer) (disk : Disk) (env : Environment) (target : Path) :
    List Path :=
  let settings := analyzer.config.analyzer
  let wanted := (filesOf disk env settings.respectGitignore target).filter (fun path =>
    hasExtension settings.extensions path && !analyzer.isExcluded path)
  wanted.mergeSort (fun a b => (a.compare b).isLE)

end SuiteLint.Discovery
