/-
  RecordTemplate.Number.Digits

  Natural numbers in decimal: the digits of a number, the value of a run of digits, and
  division rounded to the nearest whole number.
-/

import RecordTemplate.Text.CharClass

namespace RecordTemplate.Number

open RecordTemplate.Text

/-! ## Digits -/

/-- The decimal digits of `n`, without leading zeros; zero has one digit. -/
def digits (n : Nat) : List Char := Nat.toDigits 10 n

/-- The number of decimal digits of `n`. -/
def digitCount (n : Nat) : Nat := (digits n).length

/-- `n` in decimal with at least `width` digits. -/
def padded (width n : Nat) : List Char :=
  List.replicate (width - digitCount n) '0' ++ digits n

/-- The value of a run of decimal digits, read after the digits of `acc`. -/
def digitsValueFrom (acc : Nat) (s : List Char) : Nat :=
  s.foldl (fun n c => 10 * n + (decimalDigit? c).getD 0) acc

/-- The value of a run of decimal digits of any script. -/
def digitsValue (s : List Char) : Nat := digitsValueFrom 0 s

/-- The decimal digits at the beginning of a text, and the rest. -/
def spanDigits (s : List Char) : List Char × List Char := s.span isDecimal

/-- An integer in decimal. -/
def intText (i : Int) : List Char :=
  if i < 0 then '-' :: digits i.natAbs else digits i.natAbs

/-! ## Rounded division -/

/-- Where a quotient that lies half-way between two whole numbers goes. -/
inductive Tie where
  | toEven
  | away
  deriving DecidableEq, Repr

/-- `num / den` rounded to the nearest whole number. -/
def roundDiv (tie : Tie) (num den : Nat) : Nat :=
  let q := num / den
  let r := num % den
  if 2 * r < den then q
  else if den < 2 * r then q + 1
  else match tie with
    | .toEven => if q % 2 = 0 then q else q + 1
    | .away => q + 1

end RecordTemplate.Number
