/-
  RecordTemplate.Calendar.Timestamp

  Moments given by a number: seconds since the first of January 1970 in UTC, or milliseconds
  when the number is large.  The fraction of a second is rounded to whole microseconds, ties
  to even.
-/

import RecordTemplate.Calendar.DateTime
import RecordTemplate.Number.Binary64

namespace RecordTemplate.Calendar

open RecordTemplate.Number

/-- Numbers above this one count milliseconds: 10^11. -/
def millisecondLimit : Binary64 := .ofRatio false (Nat.pow 10 11) 1

/-- The whole part and the microseconds of a number of seconds, with the sign of the number
    on both. -/
def wholeAndMicros (significand : Nat) (exponent : Int) : Nat × Nat :=
  let r := Binary64.ratio significand exponent
  let micros :=
    match (Binary64.ofRatio false (r.1 % r.2) r.2).mulNat 1000000 with
    | .finite _ m e => let f := Binary64.ratio m e; roundDiv .toEven f.1 f.2
    | _ => 0
  (r.1 / r.2, micros)

/-- The year of a day counted from the first of January of year 1, on the calendar continued
    without end in both directions. -/
def yearOfDay (day : Int) : Int :=
  400 * Int.fdiv day 146097 + (Date.ofOrdinalParts ((Int.fmod day 146097).toNat + 1)).1

/-- The moment a number of microseconds after the epoch.  Years are counted from 1900 in
    thirty-two bits, and a year outside the calendar is reported in thirty-two bits too. -/
def DateTime.ofMicros (micros : Int) : Except Failure DateTime :=
  let seconds := Int.fdiv micros 1000000
  if seconds < -Int.pow 2 63 ∨ Int.pow 2 63 ≤ seconds then .error .timestampOutOfRange
  else
    -- the year is judged before the calendar, which may not hold it
    let year := yearOfDay (Int.fdiv (micros + epoch) dayMicros - 1)
    if year - 1900 < -Int.pow 2 31 ∨ Int.pow 2 31 ≤ year - 1900 then .error .yearTooLarge
    else match DateTime.ofWall? (micros + epoch) (some .utc) with
      | some t => .ok t
      | none => .error (.yearOutOfRange (year.bmod (Nat.pow 2 32)))

/-- The moment that a number stands for. -/
def DateTime.ofTimestamp (x : Binary64) : Except Failure DateTime :=
  match if millisecondLimit.lt x then x.divNat 1000 else x with
  | .nan => .error .timestampNotANumber
  | .infinite _ => .error .timestampOutOfRange
  | .finite negative m e =>
    let (whole, micros) := wholeAndMicros m e
    DateTime.ofMicros (Binary64.signed negative (whole * 1000000 + micros))

end RecordTemplate.Calendar
