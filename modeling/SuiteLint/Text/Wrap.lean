import SuiteLint.Text.Pieces

/-!
# Wrapping lines

Breaks a text into lines of limited width.  Lines break at blanks, and where a name allows it; a
piece that is too wide for a line is cut.  Each line takes as many pieces as fit on it.
-/

namespace SuiteLint.Text

/-- A piece of text that stays together, with the number of blanks after it. -/
structure Piece where
  /-- The characters, no blanks among them. -/
  chars : List Char
  /-- The number of blanks that follow. -/
  gap : Nat := 0
  deriving DecidableEq, Repr

/-- A sign that may stand before a number, such as that of a currency. -/
def isNumberSign (c : Char) : Bool :=
  c = '$' || c = '\\'

/-- Whether a line may break between two characters, neither of them a blank: between two signs of
numbers, and after a closing brace unless such a sign follows. -/
def mayBreakBetween (a b : Char) : Bool :=
  (isNumberSign a && isNumberSign b) || (a = '\x7d' && !isNumberSign b)

/-- The pieces of a text, `taken` being the beginning of the current one, last character first, and
`gap` the blanks after it. -/
def piecesFrom (taken : List Char) (gap : Nat) : List Char → List Piece
  | [] => if taken.isEmpty && gap = 0 then [] else [⟨taken.reverse, gap⟩]
  | c :: rest =>
    if c = ' ' then piecesFrom taken (gap + 1) rest
    else if 0 < gap || taken.head?.any (fun last => mayBreakBetween last c) then
      ⟨taken.reverse, gap⟩ :: piecesFrom [c] 0 rest
    else piecesFrom (c :: taken) 0 rest

/-- A piece cut so that no part is wider than `width`; `fuel` bounds the number of parts. -/
def Piece.cut (width : Nat) : (fuel : Nat) → Piece → List Piece
  | 0, piece => [piece]
  | fuel + 1, piece =>
    if piece.chars.length ≤ width then [piece]
    else ⟨piece.chars.take width, 0⟩ :: Piece.cut width fuel ⟨piece.chars.drop width, piece.gap⟩

/-- Puts pieces on lines, `line` holding those on the current one, last first, which take up `used`
characters. -/
def fillLines (width : Nat) (line : List Piece) (used : Nat) : List Piece → List (List Piece)
  | [] => [line.reverse]
  | piece :: rest =>
    let size := piece.chars.length
    if width < used + size && !line.isEmpty then
      line.reverse :: fillLines width [piece] (size + piece.gap) rest
    else fillLines width (piece :: line) (used + size + piece.gap) rest

/-- The text of a line: the blanks after its last piece are dropped. -/
def lineText : List Piece → List Char
  | [] => []
  | [piece] => piece.chars
  | piece :: rest => piece.chars ++ List.replicate piece.gap ' ' ++ lineText rest

/-- **Wrapping** a text to lines of at most `width` characters. -/
def wrap (width : Nat) (text : String) : List String :=
  let cut := (piecesFrom [] 0 text.toList).flatMap (fun piece =>
    piece.cut width piece.chars.length)
  (fillLines width [⟨[], 0⟩] 0 cut).map (fun line => String.ofList (lineText line))

end SuiteLint.Text
