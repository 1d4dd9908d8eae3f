/-!
# Severities

How grave a finding is, from `info` to `error`.
-/

namespace SuiteLint

/-- **Severity** of a finding. -/
inductive Severity where
  | info
  | warning
  | error
  deriving DecidableEq, Repr

namespace Severity

/-- Position on the scale. -/
def rank : Severity → Nat
  | .info => 0
  | .warning => 1
  | .error => 2

/-- Whether `a` is at least as grave as `b`. -/
def atLeast (a b : Severity) : Bool :=
  b.rank ≤ a.rank

/-- The written form. -/
def name : Severity → String
  | .info => "info"
  | .warning => "warning"
  | .error => "error"

/-- The severity with exactly this written form. -/
def ofName? : String → Option Severity
  | "info" => some .info
  | "warning" => some .warning
  | "error" => some .error
  | _ => none

/-- An ASCII letter in its small form; any other character as it is. -/
def lowerAscii (c : Char) : Char :=
  if 'A' ≤ c ∧ c ≤ 'Z' then Char.ofNat (c.toNat + 32) else c

/-- A name that is no severity. -/
structure Unknown where
  /-- The name in small letters. -/
  lowered : String
  deriving DecidableEq, Repr

/-- The wording of a failed reading. -/
def Unknown.message (e : Unknown) : String :=
  "unknown severity: " ++ e.lowered

/-- **Reading a severity** from text that people wrote: ASCII case does not matter, and `warn` is
short for `warning`. -/
def read (text : String) : Except Unknown Severity :=
  let lowered := String.ofList (text.toList.map lowerAscii)
  if lowered = "warn" then .ok .warning
  else
    match ofName? lowered with
    | some severity => .ok severity
    | none => .error ⟨lowered⟩

end Severity

end SuiteLint
