import SuiteLint.Unicode.CharSet

/-!
# Classes of ASCII characters

The classes that a bracket may refer to by a name between colons, such as `[:alpha:]`.
-/

namespace SuiteLint.Regex.AsciiClass

open Unicode

/-- Decimal digits of the Latin script. -/
def digit : CharSet :=
  .between '0' '9'

/-- Small Latin letters. -/
def lower : CharSet :=
  .between 'a' 'z'

/-- Capital Latin letters. -/
def upper : CharSet :=
  .between 'A' 'Z'

/-- Latin letters. -/
def alpha : CharSet :=
  upper.union lower

/-- Latin letters and digits. -/
def alnum : CharSet :=
  digit.union alpha

/-- Latin letters, digits and the underscore. -/
def word : CharSet :=
  alnum.union (.single '_')

/-- Space, tab and the line-breaking controls. -/
def space : CharSet :=
  CharSet.union (.range 9 13) (.single ' ')

/-- **Class of a name**. -/
def ofName? : String → Option CharSet
  | "alnum" => some alnum
  | "alpha" => some alpha
  | "ascii" => some (.range 0 127)
  | "blank" => some (CharSet.union (.single '\t') (.single ' '))
  | "cntrl" => some (CharSet.union (.range 0 31) (.range 127 127))
  | "digit" => some digit
  | "graph" => some (.between '!' '~')
  | "lower" => some lower
  | "print" => some (.between ' ' '~')
  | "punct" =>
    some (.all [.between '!' '/', .between ':' '@', .between '[' '\x60', .between '\x7b' '~'])
  | "space" => some space
  | "upper" => some upper
  | "word" => some word
  | "xdigit" => some (.all [digit, .between 'A' 'F', .between 'a' 'f'])
  | _ => none

end SuiteLint.Regex.AsciiClass
