import SuiteLint.Disk.Entry
import SuiteLint.Ignore.Pattern
import SuiteLint.Text.Lines

/-!
# Ignore files

An ignore file lists patterns of what to pass over, one per line.  A pattern with `!` in front takes
back what an earlier one said, so the last line that matches decides.  Of several files the one in
the nearest directory decides that has a matching line; and a file of the tool's own kind decides
before those of version control.  Paths are compared by their spelling.
-/

namespace SuiteLint.Ignore

/-! ### Lines -/

/-- **Rule** of an ignore file. -/
structure Rule where
  /-- The pattern. -/
  tokens : List Token
  /-- Whether the rule takes back what an earlier one said. -/
  keeps : Bool
  /-- Whether the rule is about directories only. -/
  directoriesOnly : Bool

/-- A line without the blanks at its end, unless the last one is escaped. -/
def trimLine (line : List Char) : List Char :=
  if ['\\', ' '].isSuffixOf line then line else Text.trimEnd line

/-- The marks at the beginning of a line: whether it takes back, whether it is bound to the
directory of the file, and what is left.  A mark that is escaped stands for itself. -/
def takeMarks (line : List Char) : Bool × Bool × List Char :=
  match line with
  | '\\' :: '!' :: rest => (false, false, '!' :: rest)
  | '\\' :: '#' :: rest => (false, false, '#' :: rest)
  | '!' :: '/' :: rest => (true, true, rest)
  | '!' :: rest => (true, false, rest)
  | '/' :: rest => (false, true, rest)
  | _ => (false, false, line)

/-- The separator at the end of a line: whether there is one, and what is left; an escape before it
goes with it. -/
def takeSlash (line : List Char) : Bool × List Char :=
  match line.reverse with
  | '/' :: '\\' :: rest => (true, rest.reverse)
  | '/' :: rest => (true, rest.reverse)
  | _ => (false, line)

/-- The pattern that the text of a line stands for.  Without a separator it applies at any depth,
and one that ends in `/**` is about what is below a directory, not about the directory. -/
def patternText (bound : Bool) (text : List Char) : List Char :=
  let anywhere := !bound && !text.contains '/' && text != ['*', '*']
  let text := if anywhere then ['*', '*', '/'] ++ text else text
  if ['/', '*', '*'].isSuffixOf text then text ++ ['/', '*'] else text

/-- **Reading a line**; comments, empty lines and malformed patterns give no rule. -/
def ruleOf? (line : List Char) : Option Rule :=
  let line := trimLine line
  if line.isEmpty || line.head? == some '#' then none
  else
    let (keeps, bound, text) := takeMarks line
    let (directoriesOnly, text) := takeSlash text
    (tokensOf (patternText bound text)).map (fun tokens =>
      { tokens := tokens, keeps := keeps, directoriesOnly := directoriesOnly })

/-! ### Files -/

/-- The lines of a file up to the first one that is no text. -/
def textLines (content : List UInt8) : List (List Char) :=
  let decoded := (content.splitOn 10).map (fun line =>
    (String.fromUTF8? ⟨line.toArray⟩).map (fun text => Text.dropReturn text.toList))
  (decoded.takeWhile Option.isSome).filterMap id

/-- Drops byte order marks at the beginning of the first line. -/
def dropMarks : List (List Char) → List (List Char)
  | [] => []
  | first :: rest => first.dropWhile (fun c => c == '\uFEFF') :: rest

/-- **Reading an ignore file**. -/
def rulesOf (content : List UInt8) : List Rule :=
  (dropMarks (textLines content)).filterMap ruleOf?

/-- What the rules of one file say about a path below its directory: `some true` to pass it over,
`some false` to keep it. -/
def verdict (rules : List Rule) (isDirectory : Bool) (path : List UInt8) : Option Bool :=
  (rules.reverse.find? (fun rule =>
    (!rule.directoriesOnly || isDirectory) && matchesPath rule.tokens path)).map
    (fun rule => !rule.keeps)

/-! ### Directories -/

/-- The ignore files of one directory. -/
structure Frame where
  /-- The tool's own ignore file. -/
  own : List Rule
  /-- The ignore file of version control. -/
  versioned : List Rule
  /-- The ignore file of version control that is not itself versioned. -/
  excluded : List Rule
  /-- The directory, as the paths below it begin. -/
  place : List Char

/-- A text without a given opening, where it has that. -/
def dropOpening (opening text : List Char) : List Char :=
  (Text.after? opening text).getD text

/-- The step to the directory itself, as a path may begin with it. -/
def here : List Char := ['.', '/']

/-- Whether a path is only steps to the directory itself. -/
def isHere (path : List Char) : Bool :=
  Path.components ⟨String.ofList path⟩ == [.current]

/-- **Path below a directory**, by its spelling: a step to the directory itself is dropped, then the
directory, if the path begins with it. -/
def pathBelow (place path : List Char) : List Char :=
  let path := dropOpening here path
  if isHere place || !path.contains '/' then path
  else
    match Text.after? place path with
    | some rest => dropOpening ['/'] rest
    | none => path

/-- The rules of an entry, if it is a file. -/
def rulesIn : Option Entry → List Rule
  | some (.file content) => rulesOf content.data.toList
  | _ => []

/-- The first line of a file, if it is text; an empty file has none. -/
def firstLine? : Option Entry → Option (List Char)
  | some (.file content) =>
    if content.isEmpty then none else (textLines content.data.toList).head?
  | _ => none

/-- The file that a path leads to. -/
def entryAt? (disk : Disk) (path : Path) : Option Entry :=
  (disk.find path).toOption

/-- The directory that working copies of one repository share: the file `.git` of a working copy
names its own directory, which names the shared one, from itself if it begins with a dot. -/
def sharedDirectory? (disk : Disk) (link : Option Entry) : Option Path := do
  let named ← Text.after? "gitdir: ".toList (← firstLine? link)
  let own : Path := ⟨String.ofList named⟩
  let shared ← firstLine? (entryAt? disk (own.join ⟨"commondir"⟩))
  some (if shared.head? == some '.' then own.join ⟨String.ofList shared⟩
    else ⟨String.ofList shared⟩)

/-- The rules that a repository keeps for itself, given the entry `.git` of a directory. -/
def excludedRules (disk : Disk) (git : Option Entry) : List Rule :=
  match git with
  | some (.directory entries) =>
    match entries.lookup "info" with
    | some info => rulesIn (info.children.lookup "exclude")
    | none => []
  | link =>
    match sharedDirectory? disk link with
    | some shared => rulesIn (entryAt? disk (shared.join ⟨"info/exclude"⟩))
    | none => []

/-- The frame of a directory that paths below it begin with. -/
def Frame.ofDirectory (disk : Disk) (place : Path) (directory : Entry) : Frame :=
  let entries := directory.children
  { own := rulesIn (entries.lookup ".ignore")
    versioned := rulesIn (entries.lookup ".gitignore")
    excluded := excludedRules disk (entries.lookup ".git")
    place := dropOpening here place.text.toList }

/-- The verdict of the first frame that has one, by one of its files. -/
def firstVerdict (frames : List Frame) (file : Frame → List Rule) (isDirectory : Bool)
    (path : List Char) : Option Bool :=
  frames.findSome? (fun frame =>
    verdict (file frame) isDirectory
      (String.ofList (pathBelow frame.place path)).toUTF8.data.toList)

/-! ### Surveys -/

/-- **Survey** of a target: the ignore rules in force at a place below it. -/
structure Survey where
  /-- The files that can be seen. -/
  disk : Disk
  /-- Whether ignore files count. -/
  honour : Bool
  /-- The target, as written. -/
  target : Path
  /-- The target, in absolute form without any idle step. -/
  resolved : Path
  /-- The frames of the directories from here up to the target. -/
  inside : List Frame := []
  /-- The frames of the directories above the target, nearest first. -/
  above : List Frame := []
  /-- The rules that hold everywhere for the user. -/
  userWide : List Rule := []

namespace Survey

/-- The survey inside a directory. -/
def enter (survey : Survey) (path : Path) (directory : Entry) : Survey :=
  if survey.honour then
    { survey with inside := Frame.ofDirectory survey.disk path directory :: survey.inside }
  else survey

/-- A path below the target, which is given without a step to the directory itself at its front, as
the directories above the target see it. -/
def resolve (survey : Survey) (path : List Char) : List Char :=
  let target := survey.target.text.toList
  let rest :=
    if isHere target then path
    else dropOpening ['/'] (dropOpening (dropOpening here target) path)
  (survey.resolved.join ⟨String.ofList rest⟩).text.toList

/-- What the ignore rules say about a path: the tool's own files go before those of version control,
and these before what a repository excludes by itself; the rules of the user come last. -/
def verdict? (survey : Survey) (isDirectory : Bool) (path : Path) : Option Bool :=
  let path := dropOpening here path.text.toList
  let resolved := survey.resolve path
  let said (file : Frame → List Rule) :=
    (firstVerdict survey.inside file isDirectory path).or
      (firstVerdict survey.above file isDirectory resolved)
  let everywhere := verdict survey.userWide isDirectory
    (String.ofList (pathBelow survey.disk.resolvedCwd.text.toList path)).toUTF8.data.toList
  (((said Frame.own).or (said Frame.versioned)).or (said Frame.excluded)).or everywhere

/-- **Whether to pass over an entry**.  Names that begin with a dot are passed over unless a rule
keeps them. -/
def passesOver (survey : Survey) (isDirectory : Bool) (path : Path) : Bool :=
  (survey.verdict? isDirectory path).getD
    ((path.fileName?.getD []).head? == some '.')

end Survey

end SuiteLint.Ignore
