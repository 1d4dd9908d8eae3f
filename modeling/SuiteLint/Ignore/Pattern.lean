import SuiteLint.Text.Pieces

/-!
# Ignore patterns

The patterns of ignore files.  They are matched against the bytes of a path below the directory of
the file.  A wildcard stays within one component, except for `**` between separators, which spans
any number of them; braces hold alternatives, and a backslash takes away the meaning of what
follows.
-/

namespace SuiteLint.Ignore

/-! ### Tokens -/

/-- **Token** of a pattern. -/
inductive Token where
  /-- A byte that stands for itself. -/
  | byte (b : UInt8)
  /-- One byte other than a separator. -/
  | any
  /-- Any number of bytes other than separators. -/
  | run
  /-- One byte that is in one of the ranges, or in none of them. -/
  | set (negated : Bool) (ranges : List (UInt8 × UInt8))
  /-- Any number of components at the beginning. -/
  | leading
  /-- A separator, or any number of components between two of them. -/
  | between
  /-- A separator and all that follows. -/
  | trailing
  /-- One of several patterns. -/
  | oneOf (branches : List (List Token))

/-- The separator of paths as a byte. -/
def separator : UInt8 := 47

mutual

/-- Whether a token stands for nothing: braces without any token but such. -/
def Token.isVoid : Token → Bool
  | .oneOf branches => allVoid branches
  | _ => false

/-- Whether a pattern stands for nothing. -/
def isVoid : List Token → Bool
  | [] => true
  | token :: tokens => token.isVoid && isVoid tokens

/-- Whether all of several patterns stand for nothing. -/
def allVoid : List (List Token) → Bool
  | [] => true
  | branch :: branches => isVoid branch && allVoid branches

end

/-! ### Matching -/

/-- Whether `k` holds after some bytes that are all `within`. -/
def afterRun (within : UInt8 → Bool) (k : List UInt8 → Bool) : List UInt8 → Bool
  | [] => k []
  | b :: rest => k (b :: rest) || (within b && afterRun within k rest)

/-- Whether `k` holds right after some separator. -/
def afterSeparator (k : List UInt8 → Bool) : List UInt8 → Bool
  | [] => false
  | b :: rest => (b == separator && k rest) || afterSeparator k rest

/-- Whether the first byte passes a test and `k` holds for the rest. -/
def afterByte (test : UInt8 → Bool) (k : List UInt8 → Bool) : List UInt8 → Bool
  | [] => false
  | b :: rest => test b && k rest

/-- Whether one of the ranges holds a byte. -/
def inRanges (ranges : List (UInt8 × UInt8)) (b : UInt8) : Bool :=
  ranges.any (fun (low, high) => low ≤ b && b ≤ high)

mutual

/-- Whether tokens match the beginning of a text, `k` holding for the rest. -/
def matchAll : List Token → (List UInt8 → Bool) → List UInt8 → Bool
  | [], k, text => k text
  | token :: tokens, k, text => matchOne token (fun rest => matchAll tokens k rest) text

/-- Whether one token matches the beginning of a text, `k` holding for the rest. -/
def matchOne : Token → (List UInt8 → Bool) → List UInt8 → Bool
  | .byte b, k, text => afterByte (fun c => c == b) k text
  | .any, k, text => afterByte (fun c => c != separator) k text
  | .run, k, text => afterRun (fun c => c != separator) k text
  | .set negated ranges, k, text => afterByte (fun c => inRanges ranges c != negated) k text
  | .leading, k, text => k text || afterSeparator k text
  | .between, k, text =>
    afterByte (fun c => c == separator) (fun rest => k rest || afterSeparator k rest) text
  | .trailing, k, text => afterByte (fun c => c == separator) (afterRun (fun _ => true) k) text
  | .oneOf branches, k, text =>
    if allVoid branches then k text else matchSome branches k text

/-- Whether one of the patterns that stand for something matches. -/
def matchSome : List (List Token) → (List UInt8 → Bool) → List UInt8 → Bool
  | [], _, _ => false
  | branch :: branches, k, text =>
    (!isVoid branch && matchAll branch k text) || matchSome branches k text

end

/-- **Matching** a whole path.  A pattern that is only `**` matches everything. -/
def matchesPath (tokens : List Token) (path : List UInt8) : Bool :=
  match tokens with
  | [.leading] => true
  | _ => matchAll tokens List.isEmpty path

/-! ### Reading -/

/-- The bytes of a character. -/
def bytesOf (c : Char) : List UInt8 :=
  (String.singleton c).toUTF8.data.toList

/-- The byte ranges of a range of characters: of characters beyond ASCII, every byte counts by
itself. -/
def byteRanges (low high : Char) : List (UInt8 × UInt8) :=
  let single := fun (b : UInt8) => (b, b)
  if low = high then (bytesOf low).map single
  else
    let first := bytesOf low
    let last := bytesOf high
    first.dropLast.map single ++ [(first.getLast?.getD 0, last.headD 0)] ++
      (last.drop 1).map single

/-- Reads the ranges of a bracket, up to and with its end.  `ranges` holds those read so far, last
first, and `pending` says whether a hyphen awaits the end of the last one.  `none` stands for a
bracket without end, `some none` for a range in reverse order. -/
def readRanges (isFirst pending : Bool) (ranges : List (Char × Char)) :
    List Char → Option (Option (List (Char × Char) × List Char))
  | [] => none
  | c :: rest =>
    if c = ']' ∧ !isFirst then
      some (some ((if pending then ('-', '-') :: ranges else ranges).reverse, rest))
    else if c = '-' ∧ !isFirst ∧ !pending then readRanges false true ranges rest
    else if pending then
      match ranges with
      | (low, _) :: before =>
        if c.toNat < low.toNat then some none
        else readRanges false false ((low, c) :: before) rest
      | [] => readRanges false false [(c, c)] rest
    else readRanges false false ((c, c) :: ranges) rest

/-- One level of braces while a pattern is read. -/
structure Level where
  /-- The finished alternatives, last first. -/
  branches : List (List Token)
  /-- The tokens of the current alternative, last first. -/
  tokens : List Token

/-- **Reader** of a pattern: the level of the innermost braces, and those around it. -/
structure Draft where
  here : Level
  outer : List Level

namespace Draft

/-- Adds a token. -/
def push (draft : Draft) (token : Token) : Draft :=
  { draft with here := { draft.here with tokens := token :: draft.here.tokens } }

/-- Adds a character that stands for itself. -/
def literal (draft : Draft) (c : Char) : Draft :=
  (bytesOf c).foldl (fun d b => d.push (.byte b)) draft

/-- Puts a token in place of the last one, but keeps a wildcard over components. -/
def widen (draft : Draft) (token : Token) : Draft :=
  match draft.here.tokens with
  | .leading :: _ | .trailing :: _ => draft
  | _ :: before => { draft with here := { draft.here with tokens := token :: before } }
  | [] => draft.push token

/-- Two stars without a meaning of their own. -/
def twoRuns (draft : Draft) : Draft :=
  (draft.push .run).push .run

/-- Whether two stars after a character may span components: after a separator, and within braces
also after a comma or an opening brace, be they escaped or not. -/
def spansAfter (draft : Draft) (before : Option Char) : Bool :=
  before == some '/' ||
    (!draft.outer.isEmpty && (before == some ',' || before == some '\x7b'))

/-- Adds what two stars mean, given the character before them and the text after them, and gives the
text that is left. -/
def pushStars (draft : Draft) (before : Option Char) (rest : List Char) : Draft × List Char :=
  if draft.here.tokens.isEmpty then
    match rest with
    | [] => (draft.push .leading, [])
    | '/' :: rest => (draft.push .leading, rest)
    | _ => (draft.twoRuns, rest)
  else if !draft.spansAfter before then (draft.twoRuns, rest)
  else
    match rest with
    | [] => (draft.widen .trailing, [])
    | '/' :: after => (draft.widen .between, after)
    | c :: _ =>
      if !draft.outer.isEmpty && (c == ',' || c == '\x7d') then (draft.widen .trailing, rest)
      else (draft.twoRuns, rest)

/-- Ends an alternative. -/
def nextBranch (draft : Draft) : Draft :=
  { draft with here := ⟨draft.here.tokens.reverse :: draft.here.branches, []⟩ }

/-- Opens a brace. -/
def openBrace (draft : Draft) : Draft :=
  { here := ⟨[], []⟩, outer := draft.here :: draft.outer }

/-- Closes a brace, if one is open. -/
def closeBrace (draft : Draft) : Option Draft :=
  match draft.outer with
  | [] => none
  | level :: outer =>
    let branches := (draft.here.tokens.reverse :: draft.here.branches).reverse
    some (Draft.push { here := level, outer := outer } (.oneOf branches))

end Draft

/-- Reads the tokens of a pattern; `none` if it is not well formed.  `before` is the character read
last, and `fuel` bounds the number of steps.  A bracket without end stands for itself, as do all
brackets after it, which `plain` tells. -/
def readTokens : (fuel : Nat) → (plain : Bool) → Draft → (before : Option Char) → List Char →
    Option (List Token)
  | 0, _, _, _, _ => none
  | _ + 1, _, draft, _, [] =>
    if draft.outer.isEmpty then some draft.here.tokens.reverse else none
  | fuel + 1, plain, draft, before, c :: rest =>
    match c with
    | '?' => readTokens fuel plain (draft.push .any) (some c) rest
    | '*' =>
      match rest with
      | '*' :: rest =>
        let (draft, left) := draft.pushStars before rest
        readTokens fuel plain draft (if left.length < rest.length then some '/' else some '*') left
      | _ => readTokens fuel plain (draft.push .run) (some c) rest
    | '\\' =>
      match rest with
      | [] => none
      | d :: rest => readTokens fuel plain (draft.literal d) (some d) rest
    | '[' =>
      let (negated, inside) := match rest with
        | '!' :: inside => (true, inside)
        | '^' :: inside => (true, inside)
        | inside => (false, inside)
      match if plain then none else readRanges true false [] inside with
      | none => readTokens fuel true (draft.literal c) (some c) rest
      | some none => none
      | some (some (ranges, left)) =>
        let ranges := ranges.flatMap (fun (low, high) => byteRanges low high)
        readTokens fuel plain (draft.push (.set negated ranges)) (some ']') left
    | '\x7b' => readTokens fuel plain draft.openBrace (some c) rest
    | '\x7d' =>
      match draft.closeBrace with
      | some draft => readTokens fuel plain draft (some c) rest
      | none => none
    | ',' =>
      if draft.outer.isEmpty then readTokens fuel plain (draft.literal c) (some c) rest
      else readTokens fuel plain draft.nextBranch (some c) rest
    | _ => readTokens fuel plain (draft.literal c) (some c) rest

/-- **Reading** a pattern. -/
def tokensOf (text : List Char) : Option (List Token) :=
  readTokens (text.length + 1) false ⟨⟨[], []⟩, []⟩ none text

end SuiteLint.Ignore
