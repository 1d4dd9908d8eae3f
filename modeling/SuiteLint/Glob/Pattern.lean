import SuiteLint.Text.Pieces

/-!
# Glob patterns

Patterns over whole paths: `?` is any character, `*` any text, and `**` as a whole component any
number of components.  A bracketed set stands for one character.  Patterns have no escapes.
-/

namespace SuiteLint.Glob

/-! ### Patterns -/

/-- What a bracketed set lists. -/
inductive Specifier where
  /-- One character. -/
  | single (c : Char)
  /-- The characters from one to another; none if they are in reverse order. -/
  | range (low high : Char)
  deriving DecidableEq, Repr

/-- Whether a specifier lists a character. -/
def Specifier.has (c : Char) : Specifier → Bool
  | single d => c == d
  | range low high => low.toNat ≤ c.toNat && c.toNat ≤ high.toNat

/-- **Token** of a pattern. -/
inductive Token where
  /-- A character that stands for itself. -/
  | char (c : Char)
  /-- Any one character. -/
  | anyChar
  /-- Any text. -/
  | anyText
  /-- Nothing, any text that ends in a separator, or all the rest. -/
  | anyComponents
  /-- One of the listed characters. -/
  | oneOf (set : List Specifier)
  /-- One character that is not listed. -/
  | noneOf (set : List Specifier)
  deriving DecidableEq, Repr

/-- **Pattern**: its tokens. -/
structure Pattern where
  tokens : List Token
  deriving DecidableEq, Repr

/-! ### Reading -/

/-- What is wrong with a pattern. -/
inductive Flaw where
  /-- More than two stars in a row. -/
  | wildcards
  /-- Two stars that are not a component of their own. -/
  | recursive
  /-- A bracket without a proper end. -/
  | range
  deriving DecidableEq, Repr

/-- **Why a pattern is refused**: what is wrong, and at which character. -/
structure Error where
  position : Nat
  flaw : Flaw
  deriving DecidableEq, Repr

/-- The wording of a refusal. -/
def Error.message (e : Error) : String :=
  "Pattern syntax error near position " ++ toString e.position ++ ": " ++ (match e.flaw with
    | .wildcards => "wildcards are either regular `*` or recursive `**`"
    | .recursive => "recursive wildcards must form a single path component"
    | .range => "invalid range pattern")

/-- The specifiers of a bracket: three characters with a hyphen in the middle are a range. -/
def specifiers : List Char → List Specifier
  | [] => []
  | [a] => [.single a]
  | [a, b] => [.single a, .single b]
  | a :: b :: c :: rest =>
    if b = '-' then .range a c :: specifiers rest else .single a :: specifiers (b :: c :: rest)

/-- Reads a bracket after its opening: the first character inside is taken literally. -/
def readSet (inside : List Char) : Option (List Specifier × List Char) :=
  match inside with
  | [] => none
  | first :: rest =>
    match Text.cutAt? ']' rest with
    | some (more, after) => some (specifiers (first :: more), after)
    | none => none

/-- Reads what follows an opening bracket: an exclamation mark turns the set round. -/
def readBracket : List Char → Option (Token × List Char)
  | '!' :: inside => (readSet inside).map (fun (set, after) => (.noneOf set, after))
  | inside => (readSet inside).map (fun (set, after) => (.oneOf set, after))

/-- Adds a `**` to the tokens read so far, which are listed last first; neighbours are merged from
the second token on. -/
def pushRecursive (taken : List Token) : List Token :=
  match taken with
  | .anyComponents :: _ :: _ => taken
  | _ => .anyComponents :: taken

/-- Reads the tokens of a pattern: `position` counts the characters read, `before` is the last of
them, and `fuel` bounds the number of tokens. -/
def readTokens : (fuel : Nat) → (position : Nat) → (before : Option Char) →
    (taken : List Token) → List Char → Except Error (List Token)
  | 0, _, _, taken, _ => .ok taken.reverse
  | _ + 1, _, _, taken, [] => .ok taken.reverse
  | fuel + 1, position, before, taken, c :: rest =>
    if c = '?' then readTokens fuel (position + 1) (some c) (.anyChar :: taken) rest
    else if c = '*' then
      let run := (c :: rest).takeWhile (fun d => d == '*')
      let after := (c :: rest).drop run.length
      let stop := position + run.length
      if 2 < run.length then .error ⟨position + 2, .wildcards⟩
      else if run.length = 2 then
        if before.isNone ∨ before = some '/' then
          match after with
          | [] => readTokens fuel stop (some '*') (pushRecursive taken) []
          | '/' :: after =>
            readTokens fuel (stop + 1) (some '/') (pushRecursive taken) after
          | _ => .error ⟨stop, .recursive⟩
        else .error ⟨position - 1, .recursive⟩
      else readTokens fuel stop (some '*') (.anyText :: taken) after
    else if c = '[' then
      match readBracket rest with
      | some (token, after) =>
        readTokens fuel (position + 1 + (rest.length - after.length)) (some ']') (token :: taken)
          after
      | none => .error ⟨position, .range⟩
    else readTokens fuel (position + 1) (some c) (.char c :: taken) rest

/-- **Compiling** a pattern. -/
def Pattern.compile (text : List Char) : Except Error Pattern :=
  (readTokens (text.length + 1) 0 none [] text).map Pattern.mk

/-! ### Matching -/

/-- Whether `p` holds after dropping some characters from the front. -/
def someRest (p : List Char → Bool) : List Char → Bool
  | [] => p []
  | c :: rest => p (c :: rest) || someRest p rest

/-- Whether `p` holds for the rest after some separator, or for the empty rest. -/
def someBelow (p : List Char → Bool) : List Char → Bool
  | [] => p []
  | c :: rest => (c == '/' && p rest) || someBelow p rest

/-- **Matching** tokens against a whole text. -/
def matchTokens : List Token → List Char → Bool
  | [], text => text.isEmpty
  | .anyText :: tokens, text => someRest (matchTokens tokens) text
  | .anyComponents :: tokens, text =>
    matchTokens tokens text || someBelow (matchTokens tokens) text
  | .char c :: tokens, text =>
    match text with
    | d :: rest => c == d && matchTokens tokens rest
    | [] => false
  | .anyChar :: tokens, text =>
    match text with
    | _ :: rest => matchTokens tokens rest
    | [] => false
  | .oneOf set :: tokens, text =>
    match text with
    | d :: rest => set.any (Specifier.has d) && matchTokens tokens rest
    | [] => false
  | .noneOf set :: tokens, text =>
    match text with
    | d :: rest => !set.any (Specifier.has d) && matchTokens tokens rest
    | [] => false

/-- Whether a pattern matches a text as a whole. -/
def Pattern.matchesAll (pattern : Pattern) (text : List Char) : Bool :=
  matchTokens pattern.tokens text

end SuiteLint.Glob
