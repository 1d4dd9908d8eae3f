import SuiteLint.Text.Pieces

/-!
# JSON values

The values of the machine-readable report and their written form: two blanks per level, an entry
per line, and nothing between the brackets of an empty array or object.
-/

namespace SuiteLint

/-- **JSON value**.  An object keeps the order of its entries. -/
inductive Json where
  | null
  | bool (b : Bool)
  /-- The number `mantissa · 10 ^ -places`. -/
  | number (mantissa : Int) (places : Nat)
  | string (text : String)
  | array (items : List Json)
  | object (entries : List (String × Json))
  deriving Inhabited

namespace Json

/-- A natural number. -/
def natural (n : Nat) : Json :=
  .number n 0

/-! ### Views -/

/-- The text of a string. -/
def asString? : Json → Option String
  | .string text => some text
  | _ => none

/-- The natural number that is written without a fraction and fits in 64 bits. -/
def asNatural? : Json → Option Nat
  | .number (.ofNat n) 0 => if n < 18446744073709551616 then some n else none
  | _ => none

/-- The items of an array. -/
def asArray? : Json → Option (List Json)
  | .array items => some items
  | _ => none

/-! ### Writing -/

/-- A hexadecimal digit. -/
def hexDigit (n : Nat) : Char :=
  (Nat.toDigits 16 n).headD '0'

/-- How one character is written inside a string: quotes, backslashes and control characters are
escaped, the latter by their short names where they have one. -/
def escape (c : Char) : List Char :=
  if c = '"' then ['\\', '"']
  else if c = '\\' then ['\\', '\\']
  else if c = '\n' then ['\\', 'n']
  else if c = '\r' then ['\\', 'r']
  else if c = '\t' then ['\\', 't']
  else if c.toNat = 8 then ['\\', 'b']
  else if c.toNat = 12 then ['\\', 'f']
  else if c.toNat < 32 then
    ['\\', 'u', '0', '0', hexDigit (c.toNat / 16), hexDigit (c.toNat % 16)]
  else [c]

/-- A string between quotes. -/
def quoted (text : String) : String :=
  "\"" ++ String.ofList (text.toList.flatMap escape) ++ "\""

/-- A number with a point before its last `places` digits. -/
def numeral (mantissa : Int) (places : Nat) : String :=
  let digits := Nat.toDigits 10 mantissa.natAbs
  let digits := List.replicate (places + 1 - digits.length) '0' ++ digits
  let whole := digits.take (digits.length - places)
  let tail := digits.drop (digits.length - places)
  (if mantissa < 0 then "-" else "") ++ String.ofList whole ++
    (if tail.isEmpty then "" else "." ++ String.ofList tail)

/-- Lines between brackets, each at the inner level; brackets alone around no lines. -/
def bracketed (opening closing : String) (level : Nat) (lines : List String) : String :=
  if lines.isEmpty then opening ++ closing
  else
    let inner := "\n" ++ Text.blanks (2 * (level + 1))
    opening ++ inner ++ (("," ++ inner).intercalate lines) ++ "\n" ++ Text.blanks (2 * level) ++
      closing

/-- **Written form** of a value that stands at a level of indentation. -/
def renderAt (level : Nat) : Json → String
  | .null => "null"
  | .bool b => if b then "true" else "false"
  | .number mantissa places => numeral mantissa places
  | .string text => quoted text
  | .array items => bracketed "[" "]" level (renderItems (level + 1) items)
  | .object entries => bracketed "\x7b" "\x7d" level (renderEntries (level + 1) entries)
where
  /-- The written forms of the items of an array. -/
  renderItems (level : Nat) : List Json → List String
    | [] => []
    | item :: rest => renderAt level item :: renderItems level rest
  /-- The written forms of the entries of an object. -/
  renderEntries (level : Nat) : List (String × Json) → List String
    | [] => []
    | (key, value) :: rest =>
      (quoted key ++ ": " ++ renderAt level value) :: renderEntries level rest

/-- Written form of a whole document. -/
def render (value : Json) : String :=
  renderAt 0 value

end Json

end SuiteLint
