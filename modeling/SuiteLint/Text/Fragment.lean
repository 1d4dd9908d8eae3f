import SuiteLint.Text.Blank

/-!
# Quoted fragments

Messages quote source text.  A quotation has to stay on one line and short, so blanks are collapsed
and long text is cut at a fixed number of characters.
-/

namespace SuiteLint.Text

/-- The words of a text with one space between neighbours. -/
def collapse (cs : List Char) : List Char :=
  [' '].intercalate (words cs)

/-- **Fragment**: the collapsed text, or its first `limit` characters and three dots when it is
longer than that. -/
def fragmentOf (limit : Nat) (cs : List Char) : List Char :=
  let flat := collapse cs
  if limit < flat.length then flat.take limit ++ ['.', '.', '.'] else flat

/-- The fragment of a string. -/
def fragment (text : String) (limit : Nat) : String :=
  String.ofList (fragmentOf limit text.toList)

/-- The number of characters a message quotes at most. -/
def quoteLimit : Nat := 30

end SuiteLint.Text
