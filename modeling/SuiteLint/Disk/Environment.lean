import SuiteLint.Disk.Entry

/-!
# Environment variables

The variables that a run can see, as a value, and the places of the user's files that they name.
-/

namespace SuiteLint

/-- **Environment**: the variables that are set. -/
abbrev Environment := List (String × String)

namespace Environment

/-- The user's own directory. -/
def home? (env : Environment) : Option Path :=
  (env.lookup "HOME").map Path.mk

/-- The directory of the user's settings. -/
def settings? (env : Environment) : Option Path :=
  match env.lookup "XDG_CONFIG_HOME" with
  | some text => if text.isEmpty then inHome else some ⟨text⟩
  | none => inHome
where
  /-- Where settings are if no other place is named. -/
  inHome : Option Path :=
    env.home?.map (fun home => home.join ⟨".config"⟩)

end Environment

end SuiteLint
