/-
  RecordTemplate.Number.Shortest

  The text of a double precision number: the fewest significant digits that read back as
  the same number, and of those the ones nearest to it.  Magnitudes from 10^-4 up to below
  10^16 are written positionally and keep one digit after the point; others are written
  with an exponent of at least two digits.
-/

import RecordTemplate.Number.Binary64

namespace RecordTemplate.Number

namespace Binary64

/-! ## Shortest digits -/

/-- The power of ten of the leading digit of the positive number `num / den`. -/
def leadingPower (num den : Nat) : Int :=
  let guess := (digitCount num : Int) - digitCount den
  if num * Nat.pow 10 (-guess).toNat < den * Nat.pow 10 guess.toNat then guess - 1 else guess

/-- The multiple of ten to the power `e` next to `num / den` that reads back as `x`; of two,
    the nearer, and the even one if both are equally near. -/
def onGrid? (x : Binary64) (num den : Nat) (e : Int) : Option Nat :=
  let n := num * Nat.pow 10 (-e).toNat
  let d := den * Nat.pow 10 e.toNat
  let q := n / d
  let back (c : Nat) : Bool := c ≠ 0 && ofDecimal false c e == x
  match back q, back (q + 1) with
  -- both neighbours read back: the nearer one is taken
  | true, true => some (roundDiv .toEven n d)
  | true, false => some q
  | false, true => some (q + 1)
  | false, false => none

/-- The first of at most `count` grids, from `e` on downward, that holds a text of `x`. -/
def searchGrid (x : Binary64) (num den : Nat) : Nat → Int → Nat × Int
  | 0, e => (num * Nat.pow 10 (-e).toNat / (den * Nat.pow 10 e.toNat), e)
  | count + 1, e =>
    match onGrid? x num den e with
    | some c => (c, e)
    | none => searchGrid x num den count (e - 1)

/-- A coefficient without trailing zeros, and the power of ten that makes up for them.  The
    first argument bounds the number of zeros. -/
def dropZeros : Nat → Nat → Int → Nat × Int
  | 0, c, e => (c, e)
  | k + 1, c, e => if c ≠ 0 ∧ c % 10 = 0 then dropZeros k (c / 10) (e + 1) else (c, e)

/-- The shortest decimal, as a coefficient and a power of ten, that reads back as the
    positive number with this significand and exponent. -/
def shortest (significand : Nat) (exponent : Int) : Nat × Int :=
  if significand = 0 then (0, 0)
  else
    let r := ratio significand exponent
    let found := searchGrid (finite false significand exponent) r.1 r.2 17
      (leadingPower r.1 r.2)
    dropZeros 20 found.1 found.2

/-! ## Layout -/

/-- The digits `ds` with the point after the first `point` of them; `point` may lie outside
    the digits. -/
def positional (ds : List Char) (point : Int) : List Char :=
  if point ≤ 0 then '0' :: '.' :: List.replicate (-point).toNat '0' ++ ds
  else if ds.length ≤ point.toNat then
    ds ++ List.replicate (point.toNat - ds.length) '0' ++ ['.', '0']
  else ds.take point.toNat ++ '.' :: ds.drop point.toNat

/-- The digits `ds` with the point after the first, and the exponent `e`. -/
def scientific (ds : List Char) (e : Int) : List Char :=
  let fraction := ds.drop 1
  ds.take 1 ++ (if fraction.isEmpty then [] else '.' :: fraction) ++
    'e' :: (if e < 0 then '-' else '+') :: padded 2 e.natAbs

/-- The text of a magnitude. -/
def magnitudeText (significand : Nat) (exponent : Int) : List Char :=
  let (c, e) := shortest significand exponent
  let ds := digits c
  let point := ds.length + e
  if -4 < point ∧ point ≤ 16 then positional ds point else scientific ds (point - 1)

/-- The text of a number. -/
def text : Binary64 → List Char
  | nan => ['n', 'a', 'n']
  | infinite s => (if s then ['-'] else []) ++ ['i', 'n', 'f']
  | finite s m e => (if s then ['-'] else []) ++ magnitudeText m e

end Binary64
end RecordTemplate.Number
