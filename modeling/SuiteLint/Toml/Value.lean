/-!
# Configuration values

The values that a TOML document can hold.
-/

namespace SuiteLint.Toml

/-! ### Dates and times -/

/-- A calendar date. -/
structure Date where
  year : Nat
  month : Nat
  day : Nat
  deriving DecidableEq, Repr

/-- A time of day. -/
structure Time where
  hour : Nat
  minute : Nat
  second : Nat
  nanosecond : Nat
  deriving DecidableEq, Repr

/-- The distance from universal time. -/
inductive Offset where
  /-- None, written `Z`. -/
  | utc
  /-- Hours and minutes before or after. -/
  | local (behind : Bool) (hour minute : Nat)
  deriving DecidableEq, Repr

/-- **Datetime**: a date, a time, or both, and then perhaps an offset. -/
structure Datetime where
  date : Option Date
  time : Option Time
  offset : Option Offset
  deriving DecidableEq, Repr

/-- A number with at least `width` digits. -/
def paddedNumber (width n : Nat) : String :=
  let digits := Nat.toDigits 10 n
  String.ofList (List.replicate (width - digits.length) '0' ++ digits)

/-- `YYYY-MM-DD`. -/
def Date.render (d : Date) : String :=
  paddedNumber 4 d.year ++ "-" ++ paddedNumber 2 d.month ++ "-" ++ paddedNumber 2 d.day

/-- `HH:MM:SS`, and the fraction of a second without zeros at its end. -/
def Time.render (t : Time) : String :=
  paddedNumber 2 t.hour ++ ":" ++ paddedNumber 2 t.minute ++ ":" ++ paddedNumber 2 t.second ++
    (if t.nanosecond = 0 then ""
     else "." ++ String.ofList
      (((paddedNumber 9 t.nanosecond).toList.reverse.dropWhile (fun c => c == '0')).reverse))

/-- `Z` or `+HH:MM`. -/
def Offset.render : Offset → String
  | .utc => "Z"
  | .local behind hour minute =>
    (if behind then "-" else "+") ++ paddedNumber 2 hour ++ ":" ++ paddedNumber 2 minute

/-- **Written form** of a datetime, with `T` between date and time. -/
def Datetime.render (d : Datetime) : String :=
  let date := (d.date.map Date.render).getD ""
  let time := (d.time.map Time.render).getD ""
  let middle := if d.date.isSome && d.time.isSome then "T" else ""
  date ++ middle ++ time ++ (d.offset.map Offset.render).getD ""

/-! ### Values -/

/-- **Value** of a TOML document. -/
inductive Value where
  | string (text : String)
  | integer (n : Int)
  | float (x : Float)
  | boolean (b : Bool)
  | datetime (d : Datetime)
  | array (items : List Value)
  | table (entries : List (String × Value))
  deriving Inhabited

namespace Value

/-- The name of a value's type. -/
def typeName : Value → String
  | string _ => "string"
  | integer _ => "integer"
  | float _ => "float"
  | boolean _ => "boolean"
  | datetime _ => "datetime"
  | array _ => "array"
  | table _ => "table"

/-- The text of a string value. -/
def asString? : Value → Option String
  | string text => some text
  | _ => none

/-- The truth value of a boolean. -/
def asBool? : Value → Option Bool
  | boolean b => some b
  | _ => none

/-- The items of an array. -/
def asArray? : Value → Option (List Value)
  | array items => some items
  | _ => none

/-- The entries of a table. -/
def asTable? : Value → Option (List (String × Value))
  | table entries => some entries
  | _ => none

end Value

/-- The key under which a table that stands for a datetime holds its text. -/
def datetimeKey : String := "$__toml_private_datetime"

/-- The entries of a section: those of a table, or a datetime as a table with its text. -/
def Value.asSection? : Value → Option (List (String × Value))
  | table entries => some entries
  | datetime d => some [(datetimeKey, .string d.render)]
  | _ => none

end SuiteLint.Toml
