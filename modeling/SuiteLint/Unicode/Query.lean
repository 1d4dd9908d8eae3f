import SuiteLint.Unicode.Age
import SuiteLint.Unicode.Property
import SuiteLint.Unicode.Script

/-!
# Sets of characters by name

A pattern names a set of characters by a property, a general category or a script, or by the value
of a property.  Names are compared loosely.  The values of `Grapheme_Cluster_Break`, `Word_Break`
and `Sentence_Break` are not on record: sets asked for by them are unknown.
-/

namespace SuiteLint.Unicode

/-! ### Loose names -/

/-- A name without the word `is` in front of it. -/
def dropIs (name : List Char) : List Char :=
  match name with
  | 'i' :: 's' :: rest | 'I' :: 's' :: rest | 'i' :: 'S' :: rest | 'I' :: 'S' :: rest => rest
  | _ => name

/-- **Loose form of a name**: in small letters, without blanks, hyphens, underscores and what is not
ASCII, and without the word `is` in front.  The name `isc` is kept, since `c` means another
thing. -/
def looseName (name : List Char) : String :=
  let shorter := dropIs name
  let plain := (shorter.filter (fun c =>
    c.toNat < 128 && c != ' ' && c != '_' && c != '-')).map Char.toLower
  if plain = ['c'] ∧ shorter.length < name.length then "isc" else String.ofList plain

/-! ### Queries -/

/-- **How a set is asked for**. -/
inductive Query where
  /-- By one word. -/
  | named (name : List Char)
  /-- By a property and its value. -/
  | valued (property value : List Char)

/-- The set that one word stands for: a property, a general category or a script, in this order. -/
def setOfName? (name : String) : Option CharSet :=
  (Property.ofName? name).or ((Category.setOfName? name).or
    ((Script.ofName? name).map Script.members))

/-- The set of the characters for which a property has a given value. -/
def setOfValue? (property value : String) : Option CharSet :=
  match property with
  | "gc" | "generalcategory" => Category.setOfName? value
  | "sc" | "script" => (Script.ofName? value).map Script.members
  | "scx" | "scriptextensions" => (Script.ofName? value).map Script.extended
  | "age" => Age.ofName? value
  | _ => none

/-- **Answer to a query**, if there is such a set. -/
def Query.answer? : Query → Option CharSet
  | named name => setOfName? (looseName name)
  | valued property value => setOfValue? (looseName property) (looseName value)

end SuiteLint.Unicode
