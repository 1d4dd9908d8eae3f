import SuiteLint.Disk.Environment
import SuiteLint.Ignore.Rules

/-!
# Ignore rules of the user

Version control lets a user keep one ignore file for all repositories.  Its settings name it by the
key `excludesfile`; without that key it is the file `ignore` among the settings of version control.
The settings are searched for a line with the key, whatever section it stands in.
-/

namespace SuiteLint.Ignore

/-! ### Settings -/

/-- The blanks of settings, as bytes. -/
def isBlankByte (b : UInt8) : Bool :=
  b == 32 || (9 ≤ b && b ≤ 13)

/-- Bytes with capital letters made small. -/
def lowerBytes (bytes : List UInt8) : List UInt8 :=
  bytes.map (fun b => if 65 ≤ b && b ≤ 90 then b + 32 else b)

/-- The double quote as a byte. -/
def quoteByte : UInt8 := 34

/-- The text after its blanks. -/
def afterBlanks (bytes : List UInt8) : List UInt8 :=
  bytes.dropWhile isBlankByte

/-- Whether nothing but blanks stands before the end of a line. -/
def endsLine (bytes : List UInt8) : Bool :=
  (bytes.takeWhile isBlankByte).contains 10 || (afterBlanks bytes).isEmpty

/-- Whether a value ends here: with blanks, perhaps a quote among them, to the end of a line. -/
def endsValue (bytes : List UInt8) : Bool :=
  endsLine bytes ||
    (match afterBlanks bytes with
      | b :: rest => b == quoteByte && endsLine rest
      | [] => false)

/-- The shortest run of bytes that are no blanks, one at least, after which a value ends. -/
def shortestValue? (taken : List UInt8) : List UInt8 → Option (List UInt8)
  | [] => none
  | b :: rest =>
    if isBlankByte b then none
    else if endsValue rest then some (taken.reverse ++ [b])
    else shortestValue? (b :: taken) rest

/-- The value after an equals sign; a quote at its front is left out if the value can do without. -/
def valueOf? (bytes : List UInt8) : Option (List UInt8) :=
  match afterBlanks bytes with
  | b :: rest =>
    if b == quoteByte then
      (shortestValue? [] (afterBlanks rest)).or (shortestValue? [] (b :: rest))
    else shortestValue? [] (b :: rest)
  | [] => none

/-- The name of the key. -/
def excludesKey : List UInt8 := "excludesfile".toUTF8.data.toList

/-- The value of the key, if it stands at the beginning of a line. -/
def valueHere? (line : List UInt8) : Option (List UInt8) :=
  let line := afterBlanks line
  if excludesKey.isPrefixOf (lowerBytes line) then
    match afterBlanks (line.drop excludesKey.length) with
    | b :: rest => if b == 61 then valueOf? rest else none
    | [] => none
  else none

/-- The value of the key at the first line that has one. -/
def settingIn? : (atStart : Bool) → List UInt8 → Option (List UInt8)
  | _, [] => none
  | atStart, b :: rest =>
    (if atStart then valueHere? (b :: rest) else none).or (settingIn? (b == 10) rest)

/-! ### Files -/

/-- A text with the user's own directory in place of every tilde. -/
def expandHome (env : Environment) (text : String) : String :=
  match env.home? with
  | some home => text.replace "~" home.text
  | none => text

/-- The ignore file that a file of settings names. -/
def namedBy? (disk : Disk) (env : Environment) (settings : Option Path) : Option Path := do
  match entryAt? disk (← settings) with
  | some (.file content) =>
    let text ← String.fromUTF8? ⟨(← settingIn? true content.data.toList).toArray⟩
    some ⟨expandHome env text⟩
  | _ => none

/-- The user's own settings of version control. -/
def userSettings? (env : Environment) : Option Path :=
  ((env.lookup "GIT_CONFIG_GLOBAL").map Path.mk).or
    (env.home?.map (fun home => home.join ⟨".gitconfig"⟩))

/-- **The user's ignore file**: the one that the settings name, those of the user first. -/
def userFile? (disk : Disk) (env : Environment) : Option Path :=
  let shared := env.settings?
  ((namedBy? disk env (userSettings? env)).or
    (namedBy? disk env (shared.map (fun place => place.join ⟨"git/config"⟩)))).or
    (shared.map (fun place => place.join ⟨"git/ignore"⟩))

/-- The rules of the user's ignore file. -/
def userRules (disk : Disk) (env : Environment) : List Rule :=
  rulesIn ((userFile? disk env).bind (entryAt? disk))

end SuiteLint.Ignore
