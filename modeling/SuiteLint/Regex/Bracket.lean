import SuiteLint.Regex.Escape

/-!
# Bracketed classes

A bracket lists characters, ranges and classes; brackets may be nested and combined by intersection,
difference and symmetric difference.
-/

namespace SuiteLint.Regex

open Unicode

/-- A set with the number of constructs nested in it. -/
structure Nested (α : Type) where
  /-- What was read. -/
  item : α
  /-- How deep it is nested. -/
  depth : Nat := 0

/-- An operation between two sets of a class. -/
inductive SetOp where
  | inter
  | diff
  | symmDiff

/-- The union of the items of a class, which are listed last first. -/
def unionOf (items : List (Nested CharSet)) : Nested CharSet :=
  match items with
  | [] => { item := .none }
  | [one] => one
  | many => { item := .all (many.reverse.map Nested.item)
              depth := (many.map Nested.depth).foldl max 0 + 1 }

/-- Applies the operation that is waiting for its right operand. -/
def combine (flags : Flags) (pending : Option (SetOp × Nested CharSet)) (right : Nested CharSet) :
    Nested CharSet :=
  match pending with
  | none => right
  | some (op, left) =>
    let a := flags.fold left.item
    let b := flags.fold right.item
    let set := match op with
      | .inter => a.inter b
      | .diff => a.diff b
      | .symmDiff => a.symmDiff b
    { item := set, depth := max left.depth right.depth + 1 }

/-- A finished bracket: folded, then negated if it began with `^`. -/
def finishBracket (flags : Flags) (negated : Bool) (set : Nested CharSet) :
    Except SyntaxError (Nested CharSet) :=
  (flags.foldAndNegate negated set.item).map (fun item => { item := item, depth := set.depth + 1 })

/-- Reads the beginning of a bracket: the negation, hyphens, and a closing bracket that stands
first, all taken literally. -/
def openBracket (flags : Flags) (cs : List Char) :
    Except SyntaxError (Bool × List (Nested CharSet) × List Char) := do
  let cs := flags.skip cs
  let (negated, cs) := match cs with
    | '^' :: rest => (true, flags.skip rest)
    | _ => (false, cs)
  let (hyphens, cs) := takeHyphens cs.length [] cs
  match cs with
  | [] => .error .classUnclosed
  | ']' :: rest =>
    if hyphens.isEmpty then
      match flags.skip rest with
      | [] => .error .classUnclosed
      | rest => .ok (negated, [{ item := .single ']' }], rest)
    else .ok (negated, hyphens, cs)
  | _ => .ok (negated, hyphens, cs)
where
  /-- The hyphens at the front. -/
  takeHyphens : Nat → List (Nested CharSet) → List Char → List (Nested CharSet) × List Char
    | fuel + 1, taken, '-' :: rest =>
      takeHyphens fuel ({ item := .single '-' } :: taken) (flags.skip rest)
    | _, taken, cs => (taken, cs)

/-- Reads a named class such as `[:alpha:]`, the text starting after its first bracket: whether it
is negated, the class, and the rest. -/
def namedClass? : List Char → Option (Bool × CharSet × List Char)
  | ':' :: rest =>
    let (negated, rest) := match rest with
      | '^' :: r => (true, r)
      | r => (false, r)
    let name := rest.takeWhile (fun c => c != ':')
    match rest.dropWhile (fun c => c != ':') with
    | ':' :: ']' :: after =>
      (AsciiClass.ofName? (String.ofList name)).map (fun set => (negated, set, after))
    | _ => none
  | _ => none

/-- Reads one character or escape of a class. -/
def classItem (flags : Flags) : List Char → Except SyntaxError (Primitive × List Char)
  | [] => .error .classUnclosed
  | '\\' :: rest => readEscape flags rest
  | c :: rest => .ok (.literal c, rest)

/-- A primitive as a character of a class; where classes are not those of Unicode, it must be an
ASCII character. -/
def classChar (flags : Flags) : Primitive → Except SyntaxError Char
  | .literal c | .byte c => if flags.unicode || c.toNat < 128 then .ok c else .error .notUnicode
  | _ => .error .classRangeLiteral

/-- Reads one item of a class, or a range between two of them. -/
def classRange (flags : Flags) (cs : List Char) : Except SyntaxError (CharSet × List Char) := do
  let (first, rest) ← classItem flags cs
  let rest := flags.skip rest
  let alone : Except SyntaxError (CharSet × List Char) := match first with
    | .set s => .ok (s, rest)
    | .assertion _ => .error .classEscapeInvalid
    | first => do .ok (.single (← classChar flags first), rest)
  match rest with
  | [] => .error .classUnclosed
  | '-' :: more =>
    match flags.skip more with
    | [] => .error .classUnclosed
    | ']' :: _ | '-' :: _ => alone
    | more => do
      let (second, rest) ← classItem flags more
      let a ← classChar flags first
      let b ← classChar flags second
      if a.toNat ≤ b.toNat then .ok (.between a b, rest) else .error .classRangeInvalid
  | _ => alone

/-- Reads the rest of a bracket; `fuel` bounds the number of items. -/
def classBody (flags : Flags) : (fuel : Nat) → (items : List (Nested CharSet)) →
    (pending : Option (SetOp × Nested CharSet)) → List Char →
    Except SyntaxError (Nested CharSet × List Char)
  | 0, _, _, _ => .error .classUnclosed
  | fuel + 1, items, pending, cs =>
    let operation (op : SetOp) (rest : List Char) :=
      classBody flags fuel [] (some (op, combine flags pending (unionOf items))) rest
    match flags.skip cs with
    | [] => .error .classUnclosed
    | '[' :: rest =>
      match namedClass? rest with
      | some (negated, set, rest) => do
        let set ← flags.foldAndNegate negated set
        classBody flags fuel ({ item := set } :: items) pending rest
      | none => do
        let (negated, first, rest) ← openBracket flags rest
        let (inner, rest) ← classBody flags fuel first none rest
        classBody flags fuel ((← finishBracket flags negated inner) :: items) pending rest
    | ']' :: rest => .ok (combine flags pending (unionOf items), rest)
    | '&' :: '&' :: rest => operation .inter rest
    | '-' :: '-' :: rest => operation .diff rest
    | '~' :: '~' :: rest => operation .symmDiff rest
    | cs => do
      let (set, rest) ← classRange flags cs
      classBody flags fuel ({ item := set } :: items) pending rest

/-- Reads a whole bracketed class, the text starting after its first bracket. -/
def readClass (flags : Flags) (cs : List Char) :
    Except SyntaxError (Nested CharSet × List Char) := do
  let (negated, first, rest) ← openBracket flags cs
  let (set, rest) ← classBody flags (rest.length + 1) first none rest
  .ok (← finishBracket flags negated set, rest)

end SuiteLint.Regex
