/-!
# Shortest decimal text of a binary number

A binary floating-point number is written with the fewest decimal digits that read back as the same
number; of several such texts the one nearest to the number is taken.  The digits are found by exact
arithmetic: for one digit, two digits and so on, the two neighbours of the number on that decimal
grid are tested for lying in the interval of the reals that round to it.
-/

namespace SuiteLint.Decimal

/-! ### Digits -/

/-- A positive binary number `mantissa · 2 ^ exponent` with its rounding interval: the interval
reaches half a unit up, and half a unit down, or a quarter below a power of two. -/
structure Binary where
  mantissa : Nat
  exponent : Int
  /-- Whether the neighbour below is only half as far away. -/
  narrow : Bool

/-- The number of fractions, which take up the low 52 bits. -/
def fractions : Nat := 4503599627370496

/-- Decodes the bits of a finite positive double: 11 bits of exponent above 52 bits of fraction. -/
def Binary.ofBits (bits : Nat) : Binary :=
  let fraction : Nat := bits % fractions
  let biased : Nat := bits / fractions % 2048
  if biased = 0 then ⟨fraction, -1074, false⟩
  else ⟨fractions + fraction, (biased : Int) - 1075, decide (fraction = 0 ∧ 1 < biased)⟩

/-- The number, the lower and the upper end of its interval over a common denominator. -/
def Binary.scaled (b : Binary) : Nat × Nat × Nat × Nat :=
  let up := if 0 ≤ b.exponent then Nat.pow 2 b.exponent.toNat else 1
  let den := if 0 ≤ b.exponent then 4 else 4 * Nat.pow 2 (-b.exponent).toNat
  let low := if b.narrow then 4 * b.mantissa - 1 else 4 * b.mantissa - 2
  (4 * b.mantissa * up, low * up, (4 * b.mantissa + 2) * up, den)

/-- Whether `num / den` is at least `10 ^ k`. -/
def atLeastPower (num den : Nat) (k : Int) : Bool :=
  if 0 ≤ k then den * Nat.pow 10 k.toNat ≤ num else den ≤ num * Nat.pow 10 (-k).toNat

/-- The decimal exponent `k` with `10 ^ k ≤ num / den < 10 ^ (k + 1)`, searched downwards. -/
def decimalExponent (num den : Nat) : (fuel : Nat) → (k : Int) → Int
  | 0, k => k
  | fuel + 1, k => if atLeastPower num den k then k else decimalExponent num den fuel (k - 1)

/-- The candidate on the grid of `10 ^ k` that reads back as the number, if there is one; the
nearer of two, the even one of two that are equally near. -/
def onGrid (b : Binary) (k : Int) : Option Nat :=
  let (num, low, high, den) := b.scaled
  -- the number and the ends of its interval in units of 10 ^ k
  let (num, low, high, den) :=
    if 0 ≤ k then (num, low, high, den * Nat.pow 10 k.toNat)
    else
      let up := Nat.pow 10 (-k).toNat
      (num * up, low * up, high * up, den)
  let inside (n : Nat) : Bool :=
    if b.mantissa % 2 = 0 then low ≤ n * den && n * den ≤ high else low < n * den && n * den < high
  let below := num / den
  let above := below + 1
  match inside below, inside above with
  | false, false => none
  | true, false => some below
  | false, true => some above
  | true, true =>
    let down := num - below * den
    let up := above * den - num
    if down < up then some below
    else if up < down then some above
    else some (if below % 2 = 0 then below else above)

/-- The shortest digits: tries the grids from the coarsest to the finest. -/
def shortestFrom (b : Binary) (top : Int) : (fuel : Nat) → (digits : Nat) → Nat × Int
  | 0, _ => (b.mantissa, b.exponent)
  | fuel + 1, digits =>
    let k := top - digits + 1
    match onGrid b k with
    | some n => (n, k)
    | none => shortestFrom b top fuel (digits + 1)

/-- **Shortest decimal**: digits and the power of ten they are to be multiplied by. -/
def shortest (b : Binary) : Nat × Int :=
  let (num, _, _, den) := b.scaled
  shortestFrom b (decimalExponent num den 700 310) 18 1

/-! ### Text -/

/-- Digits without zeros at their end, and their power of ten adjusted. -/
def dropZeros : (fuel : Nat) → Nat → Int → Nat × Int
  | 0, n, k => (n, k)
  | fuel + 1, n, k => if n ≠ 0 ∧ n % 10 = 0 then dropZeros fuel (n / 10) (k + 1) else (n, k)

/-- Positional below `10 ^ 16` and from `10 ^ -4` on, with a point always; else one digit before
the point and an exponent. -/
def layOut (digits : List Char) (power : Int) : String :=
  let top := power + digits.length - 1
  if top < -4 ∨ 16 ≤ top then
    let tail := digits.drop 1
    String.ofList (digits.take 1 ++ (if tail.isEmpty then [] else '.' :: tail)) ++ "e" ++
      toString top
  else if 0 ≤ power then
    String.ofList (digits ++ List.replicate power.toNat '0') ++ ".0"
  else if 0 ≤ top then
    let whole := top.toNat + 1
    String.ofList (digits.take whole ++ ['.'] ++ digits.drop whole)
  else
    "0." ++ String.ofList (List.replicate ((-top).toNat - 1) '0' ++ digits)

/-- The value of the sign bit. -/
def signBit : Nat := 9223372036854775808

/-- **Text of a binary number**. -/
def render (x : Float) : String :=
  if x.isNaN then "NaN"
  else
    let bits := x.toBits.toNat
    let sign := if signBit ≤ bits then "-" else ""
    let magnitude := bits % signBit
    if x.isInf then sign ++ "inf"
    else if magnitude = 0 then sign ++ "0.0"
    else
      let (n, k) := shortest (.ofBits magnitude)
      let (n, k) := dropZeros 20 n k
      sign ++ layOut (Nat.toDigits 10 n) k

end SuiteLint.Decimal
