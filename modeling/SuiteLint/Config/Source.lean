import SuiteLint.Config.Reader

/-!
# Finding the configuration file

A check is configured by the file that is named for it; else by the nearest project file at or above
what is checked; else by the file in the user's own directory; else not at all.
-/

namespace SuiteLint

/-- **Where the configuration comes from**. -/
inductive ConfigSource where
  /-- A file that was asked for. -/
  | explicit (path : Path)
  /-- A file beside or above what is checked. -/
  | project (path : Path)
  /-- The user's own file. -/
  | user (path : Path)
  /-- No file. -/
  | defaults
  deriving DecidableEq, Repr

namespace ConfigSource

/-- The file to load. -/
def path? : ConfigSource → Option Path
  | explicit path | project path | user path => some path
  | defaults => none

/-- The names of project files; the first one is preferred in a directory that has both. -/
def projectNames : List Path := [⟨"treelint.toml"⟩, ⟨".treelint.toml"⟩]

/-- The name of the file in the user's own directory. -/
def userName : Path := ⟨"config.toml"⟩

/-- The project file in a directory. -/
def inDirectory? (disk : Disk) (directory : Path) : Option Path :=
  (projectNames.map directory.join).find? disk.isFile

/-- The project file nearest to a directory, upwards. -/
def above? (disk : Disk) (start : Path) : Option Path :=
  start.ancestors.findSome? (inDirectory? disk)

/-- The directory that stands for a target: a file stands in its parent. -/
def directoryOf (disk : Disk) (target : Path) : Path :=
  if disk.isFile target then target.parent?.getD target else target

/-- **Finding the configuration** for a target.  A file that was asked for is not looked at here. -/
def resolve (disk : Disk) (target : Path) (asked : Option Path) (userDirectory : Option Path) :
    ConfigSource :=
  match asked with
  | some path => .explicit path
  | none =>
    match above? disk (directoryOf disk target) with
    | some path => .project path
    | none =>
      match (userDirectory.map (fun directory => directory.join userName)).filter disk.isFile with
      | some path => .user path
      | none => .defaults

/-- The configuration from a source. -/
def load (disk : Disk) (source : ConfigSource) : Except ConfigError Config :=
  match source.path? with
  | some path => Config.load disk path
  | none => .ok {}

end ConfigSource

end SuiteLint
