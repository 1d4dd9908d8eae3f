import SuiteLint.Text.Hex
import SuiteLint.Text.Pieces
import SuiteLint.Toml.Value

/-!
# Reading scalars

Keys, strings, numbers, dates and times as TOML writes them.  A reader takes the text that is left
and gives back what it read together with what is left then.
-/

namespace SuiteLint.Toml

/-! ### Causes of refusal -/

/-- **Why a document is refused**. -/
inductive Error where
  | controlCharacter
  | duplicateKey (key : String)
  | expectedKey
  | expectedLineEnd
  | expectedValue
  | invalidDate
  | invalidEscape
  | invalidNumber
  | missingEquals
  | nestedTooDeep
  | notATable (key : String)
  | unclosedArray
  | unclosedHeader
  | unclosedString
  | unclosedTable
  deriving DecidableEq, Repr

/-- The wording of a refusal. -/
def Error.message : Error → String
  | controlCharacter => "control character in text"
  | duplicateKey key => "duplicate key " ++ key
  | expectedKey => "a key was expected"
  | expectedLineEnd => "the line does not end after the value"
  | expectedValue => "a value was expected"
  | invalidDate => "invalid date or time"
  | invalidEscape => "invalid escape sequence"
  | invalidNumber => "invalid number"
  | missingEquals => "an equals sign was expected"
  | nestedTooDeep => "values are nested too deep"
  | notATable key => key ++ " is not a table"
  | unclosedArray => "unclosed array"
  | unclosedHeader => "unclosed table header"
  | unclosedString => "unclosed string"
  | unclosedTable => "unclosed inline table"

/-! ### Blanks and comments -/

/-- A space or a tab. -/
def isSpace (c : Char) : Bool :=
  c = ' ' || c = '\t'

/-- The text after the spaces and tabs at its front. -/
def skipSpaces (cs : List Char) : List Char :=
  cs.dropWhile isSpace

/-- A character that may stand in a comment or string. -/
def isPrintable (c : Char) : Bool :=
  c = '\t' || (32 ≤ c.toNat && c.toNat != 127)

/-- What follows a line break at the front. -/
def afterBreak? : List Char → Option (List Char)
  | '\n' :: rest => some rest
  | '\r' :: '\n' :: rest => some rest
  | _ => none

/-- Skips spaces and a comment. -/
def skipComment (cs : List Char) : List Char :=
  match skipSpaces cs with
  | '#' :: rest => rest.dropWhile isPrintable
  | rest => rest

/-- Skips the rest of a line, which must hold nothing but spaces and a comment. -/
def endLine (cs : List Char) : Except Error (List Char) :=
  match skipComment cs with
  | [] => .ok []
  | rest =>
    match afterBreak? rest with
    | some rest => .ok rest
    | none => .error .expectedLineEnd

/-- Skips spaces, comments and line breaks; `fuel` bounds the number of lines. -/
def skipLines : (fuel : Nat) → List Char → List Char
  | 0, cs => cs
  | fuel + 1, cs =>
    let rest := skipComment cs
    match afterBreak? rest with
    | some rest => skipLines fuel rest
    | none => rest

/-! ### Strings -/

/-- The character with a code point written in `count` hexadecimal digits. -/
def codePoint (count : Nat) (cs : List Char) : Except Error (Char × List Char) :=
  let digits := cs.take count
  let values := digits.filterMap Text.hexValue?
  if values.length < count then .error .invalidEscape
  else
    let n := values.foldl (fun n d => 16 * n + d) 0
    if h : n.isValidChar then .ok (Char.ofNatAux n h, cs.drop count) else .error .invalidEscape

/-- Reads what follows a backslash. -/
def escape : List Char → Except Error (Char × List Char)
  | 'b' :: rest => .ok ('\x08', rest)
  | 't' :: rest => .ok ('\t', rest)
  | 'n' :: rest => .ok ('\n', rest)
  | 'f' :: rest => .ok ('\x0c', rest)
  | 'r' :: rest => .ok ('\r', rest)
  | '"' :: rest => .ok ('"', rest)
  | '\\' :: rest => .ok ('\\', rest)
  | 'u' :: rest => codePoint 4 rest
  | 'U' :: rest => codePoint 8 rest
  | _ => .error .invalidEscape

/-- Reads a basic string after its opening quote; `fuel` bounds the characters read. -/
def basicString : (fuel : Nat) → (taken : List Char) → List Char → Except Error (String × List Char)
  | 0, _, _ => .error .unclosedString
  | _ + 1, _, [] => .error .unclosedString
  | fuel + 1, taken, c :: rest =>
    if c = '"' then .ok (String.ofList taken.reverse, rest)
    else if c = '\\' then do
      let (e, rest) ← escape rest
      basicString fuel (e :: taken) rest
    else if isPrintable c then basicString fuel (c :: taken) rest
    else .error .controlCharacter

/-- Reads a literal string after its opening quote. -/
def literalString (cs : List Char) : Except Error (String × List Char) :=
  let inside := cs.takeWhile (fun c => c != '\'' && isPrintable c)
  match cs.drop inside.length with
  | '\'' :: rest => .ok (String.ofList inside, rest)
  | _ => .error .unclosedString

/-- The closing of a string on several lines: three quotes, with up to two more before them that
belong to the string. -/
def closing? (quote : Char) (cs : List Char) : Option (Nat × List Char) :=
  let count := ((cs.takeWhile (fun c => c == quote)).take 5).length
  if 3 ≤ count then some (count - 3, cs.drop count) else none

/-- Skips the blanks and line breaks after a backslash at the end of a line. -/
def skipJoint : List Char → List Char
  | '\r' :: '\n' :: rest => skipJoint rest
  | c :: rest => if isSpace c || c = '\n' then skipJoint rest else c :: rest
  | [] => []

/-- Reads a string on several lines after its opening; in a basic one, escapes have their meaning,
and a backslash at the end of a line joins it with the next text. -/
def longString (basic : Bool) (quote : Char) : (fuel : Nat) → (taken : List Char) → List Char →
    Except Error (String × List Char)
  | 0, _, _ => .error .unclosedString
  | _ + 1, _, [] => .error .unclosedString
  | fuel + 1, taken, c :: rest =>
    if c = quote then
      match closing? quote (c :: rest) with
      | some (extra, rest) =>
        .ok (String.ofList ((List.replicate extra quote ++ taken).reverse), rest)
      | none => longString basic quote fuel (c :: taken) rest
    else if basic && c = '\\' then
      match afterBreak? (skipSpaces rest) with
      | some next => longString basic quote fuel taken (skipJoint next)
      | none => do
        let (e, rest) ← escape rest
        longString basic quote fuel (e :: taken) rest
    else
      match afterBreak? (c :: rest) with
      | some next => longString basic quote fuel ('\n' :: taken) next
      | none =>
        if isPrintable c then longString basic quote fuel (c :: taken) rest
        else .error .controlCharacter

/-- Reads a string that opens at the front, on one line or on several. -/
def readString (cs : List Char) : Except Error (String × List Char) :=
  let fuel := cs.length + 1
  let afterFirstBreak (rest : List Char) := (afterBreak? rest).getD rest
  match cs with
  | '"' :: '"' :: '"' :: rest => longString true '"' fuel [] (afterFirstBreak rest)
  | '\'' :: '\'' :: '\'' :: rest => longString false '\'' fuel [] (afterFirstBreak rest)
  | '"' :: rest => basicString fuel [] rest
  | '\'' :: rest => literalString rest
  | _ => .error .expectedValue

/-! ### Keys -/

/-- A character of a bare key. -/
def isBareKeyChar (c : Char) : Bool :=
  c.isAlphanum || c = '_' || c = '-'

/-- Reads one part of a key. -/
def keyPart (cs : List Char) : Except Error (String × List Char) :=
  match cs with
  | '"' :: rest => basicString (rest.length + 1) [] rest
  | '\'' :: rest => literalString rest
  | _ =>
    let bare := cs.takeWhile isBareKeyChar
    if bare.isEmpty then .error .expectedKey
    else .ok (String.ofList bare, cs.drop bare.length)

/-- Reads the parts of a key, with dots between them; `fuel` bounds their number. -/
def dottedKey : (fuel : Nat) → List Char → Except Error (List String × List Char)
  | 0, _ => .error .expectedKey
  | fuel + 1, cs => do
    let (part, rest) ← keyPart (skipSpaces cs)
    match skipSpaces rest with
    | '.' :: rest => do
      let (parts, rest) ← dottedKey fuel rest
      .ok (part :: parts, rest)
    | rest => .ok ([part], rest)

/-- The greatest depth of nesting, of values and of keys. -/
def depthLimit : Nat := 80

/-- Reads a key. -/
def readKey (cs : List Char) : Except Error (List String × List Char) := do
  let (parts, rest) ← dottedKey (cs.length + 1) cs
  if depthLimit ≤ parts.length then .error .nestedTooDeep else .ok (parts, rest)

/-! ### Numbers -/

/-- Reads digits of a class with single underscores between them; gives them without these. -/
def digitRun (isOk : Char → Bool) : List Char → Option (List Char × List Char)
  | [] => none
  | [c] => if isOk c then some ([c], []) else none
  | c :: d :: rest =>
    if !isOk c then none
    else if d = '_' then (digitRun isOk rest).map (fun (ds, left) => (c :: ds, left))
    else if isOk d then (digitRun isOk (d :: rest)).map (fun (ds, left) => (c :: ds, left))
    else some ([c], d :: rest)

/-- The number that digits of a base stand for. -/
def digitsValue (base : Nat) (digits : List Char) : Nat :=
  digits.foldl (fun n c => base * n + (Text.hexValue? c).getD 0) 0

/-- Takes a sign from the front. -/
def takeSign : List Char → Option Char × List Char
  | '+' :: rest => (some '+', rest)
  | '-' :: rest => (some '-', rest)
  | cs => (none, cs)

/-- Reads decimal digits that do not begin with a zero, or a single zero. -/
def decimalRun (cs : List Char) : Option (List Char × List Char) :=
  match cs with
  | '0' :: rest => some (['0'], rest)
  | _ => digitRun Char.isDigit cs

/-- An integer value within 64 bits. -/
def checkedInteger (n : Int) (rest : List Char) : Except Error (Value × List Char) :=
  if -9223372036854775808 ≤ n ∧ n < 9223372036854775808 then .ok (.integer n, rest)
  else .error .invalidNumber

/-- Reads digits after a base mark. -/
def basedInteger (base : Nat) (isOk : Char → Bool) (cs : List Char) :
    Except Error (Value × List Char) :=
  match digitRun isOk cs with
  | some (digits, rest) => checkedInteger (digitsValue base digits) rest
  | none => .error .invalidNumber

/-- The binary number nearest to `mantissa · 10 ^ exponent`.  Beyond the range of the format it is
zero or infinity, which is decided without computing the power. -/
def nearestFloat (mantissa : Nat) (exponent : Int) : Float :=
  let digits : Int := (Nat.toDigits 10 mantissa).length
  if mantissa = 0 ∨ digits + exponent < -400 then 0.0
  else if 400 < digits + exponent then 1.0 / 0.0
  else if exponent < 0 then Float.ofScientific mantissa true exponent.natAbs
  else Float.ofScientific mantissa false exponent.natAbs

/-- Reads an exponent. -/
def readExponent (cs : List Char) : Except Error (Int × List Char) :=
  let (sign, rest) := takeSign cs
  match digitRun Char.isDigit rest with
  | some (digits, rest) =>
    let n : Int := digitsValue 10 digits
    .ok (if sign = some '-' then -n else n, rest)
  | none => .error .invalidNumber

/-- A float value; a positive number beyond the range is refused. -/
def checkedFloat (negative : Bool) (digits : List Char) (exponent : Int) (rest : List Char) :
    Except Error (Value × List Char) :=
  let x := nearestFloat (digitsValue 10 digits) exponent
  if negative then .ok (.float (-x), rest)
  else if x.isInf then .error .invalidNumber
  else .ok (.float x, rest)

/-- Reads an integer or a float. -/
def readNumber (cs : List Char) : Except Error (Value × List Char) :=
  match cs with
  | '0' :: 'x' :: rest => basedInteger 16 (fun c => (Text.hexValue? c).isSome) rest
  | '0' :: 'o' :: rest => basedInteger 8 (fun c => '0' ≤ c && c ≤ '7') rest
  | '0' :: 'b' :: rest => basedInteger 2 (fun c => c = '0' || c = '1') rest
  | _ =>
    let (sign, unsigned) := takeSign cs
    let negative := sign = some '-'
    match unsigned with
    | 'i' :: 'n' :: 'f' :: rest =>
      .ok (.float (if negative then -1.0 / 0.0 else 1.0 / 0.0), rest)
    | 'n' :: 'a' :: 'n' :: rest => .ok (.float (0.0 / 0.0), rest)
    | _ =>
      match decimalRun unsigned with
      | none => .error .invalidNumber
      | some (whole, rest) =>
        match rest with
        | '.' :: rest =>
          match digitRun Char.isDigit rest with
          | none => .error .invalidNumber
          | some (fraction, rest) => do
            let scale : Int := fraction.length
            match rest with
            | 'e' :: rest | 'E' :: rest => do
              let (exponent, rest) ← readExponent rest
              checkedFloat negative (whole ++ fraction) (exponent - scale) rest
            | _ => checkedFloat negative (whole ++ fraction) (-scale) rest
        | 'e' :: rest | 'E' :: rest => do
          let (exponent, rest) ← readExponent rest
          checkedFloat negative whole exponent rest
        | _ =>
          let n : Int := digitsValue 10 whole
          checkedInteger (if negative then -n else n) rest

/-! ### Dates and times -/

/-- Reads exactly `count` digits as a number. -/
def fixedNumber (count : Nat) (cs : List Char) : Option (Nat × List Char) :=
  let digits := cs.take count
  if digits.length = count ∧ digits.all Char.isDigit then
    some (digitsValue 10 digits, cs.drop count)
  else none

/-- The number of days of a month. -/
def daysIn (year month : Nat) : Nat :=
  if month = 2 then
    if year % 4 = 0 ∧ (year % 100 ≠ 0 ∨ year % 400 = 0) then 29 else 28
  else if month = 4 ∨ month = 6 ∨ month = 9 ∨ month = 11 then 30
  else 31

/-- Reads a date. -/
def readDate? (cs : List Char) : Option (Date × List Char) := do
  let (year, rest) ← fixedNumber 4 cs
  let rest ← Text.after? ['-'] rest
  let (month, rest) ← fixedNumber 2 rest
  let rest ← Text.after? ['-'] rest
  let (day, rest) ← fixedNumber 2 rest
  if 1 ≤ month ∧ month ≤ 12 ∧ 1 ≤ day ∧ day ≤ daysIn year month then
    some (⟨year, month, day⟩, rest)
  else none

/-- The nanoseconds that the digits of a fraction stand for; digits past the ninth are dropped. -/
def nanoseconds (digits : List Char) : Nat :=
  let kept := digits.take 9
  digitsValue 10 kept * Nat.pow 10 (9 - kept.length)

/-- Reads a time of day. -/
def readTime? (cs : List Char) : Option (Time × List Char) := do
  let (hour, rest) ← fixedNumber 2 cs
  let rest ← Text.after? [':'] rest
  let (minute, rest) ← fixedNumber 2 rest
  let rest ← Text.after? [':'] rest
  let (second, rest) ← fixedNumber 2 rest
  if hour ≤ 23 ∧ minute ≤ 59 ∧ second ≤ 60 then
    match rest with
    | '.' :: fraction =>
      let digits := fraction.takeWhile Char.isDigit
      if digits.isEmpty then some (⟨hour, minute, second, 0⟩, rest)
      else some (⟨hour, minute, second, nanoseconds digits⟩, fraction.drop digits.length)
    | _ => some (⟨hour, minute, second, 0⟩, rest)
  else none

/-- Reads an offset; one of no minutes is never behind. -/
def readOffset? (cs : List Char) : Option (Offset × List Char) :=
  match cs with
  | 'Z' :: rest | 'z' :: rest => some (.utc, rest)
  | _ => do
    let (sign, rest) := takeSign cs
    let sign ← sign
    let (hour, rest) ← fixedNumber 2 rest
    let rest ← Text.after? [':'] rest
    let (minute, rest) ← fixedNumber 2 rest
    let behind := sign == '-' && 0 < hour + minute
    if hour ≤ 23 ∧ minute ≤ 59 then some (.local behind hour minute, rest) else none

/-- Reads a date, a time, or both. -/
def readDatetime? (cs : List Char) : Option (Datetime × List Char) :=
  match readDate? cs with
  | some (date, rest) =>
    let dateOnly : Datetime := ⟨some date, none, none⟩
    let timed : Option (Time × List Char) := match rest with
      | c :: more => if c = 'T' || c = 't' || c = ' ' then readTime? more else none
      | [] => none
    match timed with
    | none => some (dateOnly, rest)
    | some (time, rest) =>
      match readOffset? rest with
      | some (offset, rest) => some (⟨some date, some time, some offset⟩, rest)
      | none => some (⟨some date, some time, none⟩, rest)
  | none => (readTime? cs).map (fun (time, rest) => (⟨none, some time, none⟩, rest))

/-- Reads a text that is a datetime as a whole. -/
def Datetime.read? (text : String) : Option Datetime :=
  match readDatetime? text.toList with
  | some (d, []) => some d
  | _ => none

/-! ### Datetimes as tables -/

mutual

/-- **Reviving datetimes**: a table whose first key is `datetimeKey` stands for the datetime that is
written under it, which must be there.  If `alone` is set, the key must be the only one; otherwise
the others are dropped. -/
def Value.revive (alone : Bool) : Value → Option Value
  | .table ((key, v) :: rest) =>
    if key = datetimeKey then
      if alone && !rest.isEmpty then none
      else ((v.asString?.bind Datetime.read?).map Value.datetime)
    else do
      let v ← v.revive alone
      some (.table ((key, v) :: (← reviveEntries alone rest)))
  | .array items => (reviveItems alone items).map Value.array
  | v => some v

/-- Reviving the values of a table. -/
def reviveEntries (alone : Bool) : List (String × Value) → Option (List (String × Value))
  | [] => some []
  | (key, v) :: rest => do
    let v ← v.revive alone
    some ((key, v) :: (← reviveEntries alone rest))

/-- Reviving the items of an array. -/
def reviveItems (alone : Bool) : List Value → Option (List Value)
  | [] => some []
  | v :: rest => do
    let v ← v.revive alone
    some (v :: (← reviveItems alone rest))

end

end SuiteLint.Toml
