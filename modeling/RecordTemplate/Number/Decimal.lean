/-
  RecordTemplate.Number.Decimal

  Decimal numbers: a coefficient and a power of ten, and the special values.  A decimal
  keeps its trailing zeros, so 2.50 and 2.5 are different decimals of equal value.
-/

import RecordTemplate.Failure
import RecordTemplate.Number.Shortest
import RecordTemplate.Text.Search

namespace RecordTemplate.Number

open RecordTemplate.Text

/-- A decimal number. -/
inductive Decimal where
  | finite (negative : Bool) (coefficient : Nat) (exponent : Int)
  | infinite (negative : Bool)
  | nan (negative signaling : Bool) (payload : List Char)
  deriving DecidableEq, Repr

namespace Decimal

/-! ## Text -/

def signText (negative : Bool) : List Char := if negative then ['-'] else []

/-- An exponent with its sign. -/
def exponentText (e : Int) : List Char :=
  if e = 0 then [] else 'E' :: (if e < 0 then '-' else '+') :: digits e.natAbs

/-- The text of a decimal: positional while the exponent is at most zero and the leading
    digit is not below the sixth place after the point, scientific otherwise. -/
def text : Decimal → List Char
  | finite s c e =>
    let ds := digits c
    let left : Int := e + ds.length
    let point : Int := if e ≤ 0 ∧ -6 < left then left else 1
    signText s ++
      (if point ≤ 0 then '0' :: '.' :: List.replicate (-point).toNat '0' ++ ds
        else if ds.length ≤ point.toNat then
          ds ++ List.replicate (point.toNat - ds.length) '0'
        else ds.take point.toNat ++ '.' :: ds.drop point.toNat) ++
      exponentText (left - point)
  | infinite s => signText s ++ "Infinity".toList
  | nan s signaling payload =>
    signText s ++ (if signaling then ['s'] else []) ++ "NaN".toList ++ payload

/-! ## Reading -/

/-- The sign at the beginning of a text, and the rest. -/
def takeSign : List Char → Bool × List Char
  | '-' :: s => (true, s)
  | '+' :: s => (false, s)
  | s => (false, s)

/-- An exponent part, or nothing at all. -/
def readExponent? (s : List Char) : Option Int :=
  match s with
  | [] => some 0
  | c :: s =>
    if c = 'e' ∨ c = 'E' then
      let (negative, ds) := takeSign s
      if ds ≠ [] ∧ ds.all isDecimal then
        some (if negative then -(digitsValue ds : Int) else digitsValue ds)
      else none
    else none

/-- The sign, coefficient and exponent of a text such as `-12.50e3`; at least one digit
    stands before the exponent. -/
def readFinite? (s : List Char) : Option (Bool × Nat × Int) :=
  let (negative, s) := takeSign s
  let (whole, s) := spanDigits s
  let (fraction, s) :=
    match s with
    | '.' :: s => spanDigits s
    | s => ([], s)
  if whole = [] ∧ fraction = [] then none
  else (readExponent? s).map fun e =>
    (negative, digitsValue (whole ++ fraction), e - fraction.length)

/-- The decimal written in a text. -/
def read? (s : List Char) : Option Decimal :=
  match readFinite? s with
  | some (negative, c, e) => some (finite negative c e)
  | none =>
    let (negative, s) := takeSign s
    let t := s.map Char.toLower
    if t = "inf".toList ∨ t = "infinity".toList then some (infinite negative)
    else match after? "nan".toList t, after? "snan".toList t with
      | some payload, _ => some (nan negative false payload)
      | none, some payload => some (nan negative true payload)
      | none, none => none

/-! ## Conversion and rounding -/

/-- The double precision number nearest to a decimal. -/
def toBinary64 : Decimal → Except Failure Binary64
  | finite s c e => .ok (.ofDecimal s c e)
  | infinite s => .ok (.infinite s)
  | nan _ signaling _ => if signaling then .error .signalingNanToFloat else .ok .nan

/-- The most digits that a rounded coefficient may have. -/
def precision : Nat := 28

/-- The most decimal places that can be asked for. -/
def maxPlaces : Nat := 2000054

/-- The coefficient of a magnitude rounded to `places` decimal places, a half away from
    zero; nothing if it has more digits than the precision. -/
def roundTo? (coefficient : Nat) (exponent : Int) (places : Nat) : Option Nat :=
  if maxPlaces < places then none
  else if coefficient = 0 then some 0
  else
    let shift := exponent + places
    -- the shift is bounded before any power is computed
    if (precision : Int) < digitCount coefficient + shift then none
    else
      let c := roundDiv .away (coefficient * Nat.pow 10 shift.toNat) (Nat.pow 10 (-shift).toNat)
      if precision < digitCount c then none else some c

end Decimal
end RecordTemplate.Number
