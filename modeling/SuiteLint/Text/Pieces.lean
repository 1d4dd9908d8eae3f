import SuiteLint.Text.Blank

/-!
# Cutting text into pieces

Small operations on lists of characters: removing a fixed opening, splitting at a character,
looking for a text inside another.
-/

namespace SuiteLint.Text

/-- What follows `opening` in `cs`, when `cs` begins with it. -/
def after? : (opening cs : List Char) → Option (List Char)
  | [], cs => some cs
  | _ :: _, [] => none
  | o :: opening, c :: cs => if o = c then after? opening cs else none

/-- What stands before and after the first `mark`, when there is one. -/
def cutAt? (mark : Char) : List Char → Option (List Char × List Char)
  | [] => none
  | c :: cs =>
    if c = mark then some ([], cs) else (cutAt? mark cs).map (fun (l, r) => (c :: l, r))

/-- The pieces between commas, trimmed, without the empty ones. -/
def commaList (cs : List Char) : List (List Char) :=
  ((cs.splitOn ',').map trim).filter (fun piece => !piece.isEmpty)

/-- Whether `part` occurs in `cs` as a contiguous piece. -/
def occursIn (part : List Char) : List Char → Bool
  | [] => part.isEmpty
  | c :: cs => part.isPrefixOf (c :: cs) || occursIn part cs

/-- The text with every pair of neighbouring `mark` characters taken out, from the left. -/
def erasePairs (mark : Char) : List Char → List Char
  | [] => []
  | [c] => [c]
  | a :: b :: rest =>
    if a = mark ∧ b = mark then erasePairs mark rest else a :: erasePairs mark (b :: rest)

/-- The number of bytes of a text in UTF-8. -/
def byteLength (cs : List Char) : Nat :=
  cs.foldr (fun c size => c.utf8Size + size) 0

/-- A text of at least `width` characters: blanks are put in front of a shorter one. -/
def padLeft (width : Nat) (text : String) : String :=
  String.ofList (List.replicate (width - text.length) ' ') ++ text

/-- A text of at least `width` characters: blanks are put behind a shorter one. -/
def padRight (width : Nat) (text : String) : String :=
  text ++ String.ofList (List.replicate (width - text.length) ' ')

/-- `count` blanks. -/
def blanks (count : Nat) : String :=
  String.ofList (List.replicate count ' ')

end SuiteLint.Text
