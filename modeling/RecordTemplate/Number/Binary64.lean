/-
  RecordTemplate.Number.Binary64

  Double precision numbers as exact values.  A finite number is a sign, a significand below
  two to the fifty-third and a power of two; `ofRatio` rounds a quotient of natural numbers
  to the nearest of them, ties to even, and every operation is its exact result rounded.
-/

import RecordTemplate.Number.Digits

namespace RecordTemplate.Number

/-- A double precision number. -/
inductive Binary64 where
  | nan
  | infinite (negative : Bool)
  | finite (negative : Bool) (significand : Nat) (exponent : Int)
  deriving DecidableEq, Repr

namespace Binary64

/-! ## Rounding -/

/-- The exponent of the least positive number. -/
def minExponent : Int := -1074

/-- The greatest exponent of a finite number. -/
def maxExponent : Int := 971

def zero (negative : Bool) : Binary64 := finite negative 0 minExponent

/-- `num / den` divided by two to the power `e`, as a quotient of natural numbers. -/
def scale (num den : Nat) (e : Int) : Nat × Nat :=
  (num * Nat.pow 2 (-e).toNat, den * Nat.pow 2 e.toNat)

/-- The exponent at which `num / den` has a significand of fifty-three bits, or the least
    exponent if that is greater. -/
def exponentOf (num den : Nat) : Int :=
  let e := (Nat.log2 num : Int) - Nat.log2 den - 53
  let s := scale num den e
  max minExponent (if Nat.pow 2 53 ≤ s.1 / s.2 then e + 1 else e)

/-- The number nearest to `num / den`, ties to even; `den` is positive. -/
def ofRatio (negative : Bool) (num den : Nat) : Binary64 :=
  if num = 0 then zero negative
  else
    let e := exponentOf num den
    let s := scale num den e
    let m := roundDiv .toEven s.1 s.2
    -- rounding may carry into a fifty-fourth bit
    let (m, e) := if m = Nat.pow 2 53 then (Nat.pow 2 52, e + 1) else (m, e)
    if maxExponent < e then infinite negative
    else if m = 0 then zero negative else finite negative m e

/-- The number nearest to `coefficient` times ten to the power `exponent`.  A coefficient
    whose leading digit stands for 10^310 or more is beyond the range, one below 10^-330
    rounds to zero. -/
def ofDecimal (negative : Bool) (coefficient : Nat) (exponent : Int) : Binary64 :=
  if coefficient = 0 then zero negative
  else
    let top := digitCount coefficient + exponent
    if 310 < top then infinite negative
    else if top < -330 then zero negative
    else ofRatio negative (coefficient * Nat.pow 10 exponent.toNat)
        (Nat.pow 10 (-exponent).toNat)

/-- The number nearest to an integer; nothing beyond the range of finite numbers. -/
def ofInt? (i : Int) : Option Binary64 :=
  match ofRatio (i < 0) i.natAbs 1 with
  | infinite _ => none
  | x => some x

/-! ## Exact values -/

/-- The magnitude of a finite number as a quotient. -/
def ratio (significand : Nat) (exponent : Int) : Nat × Nat :=
  (significand * Nat.pow 2 exponent.toNat, Nat.pow 2 (-exponent).toNat)

/-- The whole part of a finite number, toward zero. -/
def truncate (negative : Bool) (significand : Nat) (exponent : Int) : Int :=
  let r := ratio significand exponent
  let n : Int := (r.1 / r.2 : Nat)
  if negative then -n else n

/-- Whether a finite number is whole. -/
def isWhole (significand : Nat) (exponent : Int) : Bool :=
  let r := ratio significand exponent
  r.1 % r.2 == 0

/-! ## Arithmetic -/

def abs : Binary64 → Binary64
  | nan => nan
  | infinite _ => infinite false
  | finite _ m e => finite false m e

/-- The product with a positive natural number, rounded. -/
def mulNat (x : Binary64) (k : Nat) : Binary64 :=
  match x with
  | finite s m e => let r := ratio m e; ofRatio s (r.1 * k) r.2
  | x => x

/-- The quotient by a positive natural number, rounded. -/
def divNat (x : Binary64) (k : Nat) : Binary64 :=
  match x with
  | finite s m e => let r := ratio m e; ofRatio s r.1 (r.2 * k)
  | x => x

/-! ## Order -/

/-- The numerator of a signed quotient. -/
def signed (negative : Bool) (n : Nat) : Int := if negative then -(n : Int) else n

/-- Whether one number is less than another; never so for what is not a number. -/
def lt : Binary64 → Binary64 → Bool
  | nan, _ | _, nan => false
  | infinite s, infinite t => s && !t
  | infinite s, finite .. => s
  | finite .., infinite t => !t
  | finite s m e, finite t n f =>
    let a := ratio m e
    let b := ratio n f
    signed s a.1 * b.2 < signed t b.1 * a.2

/-- Whether two numbers are equal: both zeros are, and nothing equals what is not a number. -/
def eq : Binary64 → Binary64 → Bool
  | nan, _ | _, nan => false
  | infinite s, infinite t => s == t
  | infinite _, finite .. | finite .., infinite _ => false
  | finite s m e, finite t n f =>
    let a := ratio m e
    let b := ratio n f
    signed s a.1 * b.2 == signed t b.1 * a.2

def le (x y : Binary64) : Bool := lt x y || eq x y

end Binary64
end RecordTemplate.Number
