/-
  RecordTemplate.Number.Grouped

  Numbers with a fixed count of decimal places: rounded half away from zero, the whole part
  in groups of three digits, with separators of the caller's choice.
-/

import RecordTemplate.Number.Decimal
import RecordTemplate.Text.Search

namespace RecordTemplate.Number

open RecordTemplate.Text

/-- The pieces between which group separators go; every piece has three digits. -/
def inThrees : List Char → List (List Char)
  | a :: b :: c :: rest => [a, b, c] :: inThrees rest
  | [] => []
  | short => [short]

/-- Digits cut from the right into groups of three; only the first group may be shorter. -/
def groups (ds : List Char) : List (List Char) :=
  let first := ds.length % 3
  if first = 0 then inThrees ds else ds.take first :: inThrees (ds.drop first)

/-- How a number is laid out. -/
structure Layout where
  places : Nat
  point : List Char
  separator : List Char

/-- The text of `coefficient` divided by ten to the power `places`, with its sign. -/
def Layout.text (l : Layout) (negative : Bool) (coefficient : Nat) : List Char :=
  let whole := joinWith l.separator (groups (digits (coefficient / Nat.pow 10 l.places)))
  (if negative ∧ coefficient ≠ 0 then '-' :: whole else whole) ++
    (if l.places = 0 then [] else l.point ++ padded l.places (coefficient % Nat.pow 10 l.places))

/-- A number rounded to the places of a layout and laid out; nothing if it cannot be rounded
    to them.  What is not a number has no sign to show. -/
def Layout.write? (l : Layout) (x : Binary64) : Except Failure (Option (List Char)) :=
  match x with
  | .nan => if Decimal.maxPlaces < l.places then .ok none else .error .invalidDecimal
  | .infinite _ => .ok none
  | .finite negative m e =>
    let (c, k) := Binary64.shortest m e
    .ok ((Decimal.roundTo? c k l.places).map (l.text negative))

end RecordTemplate.Number
