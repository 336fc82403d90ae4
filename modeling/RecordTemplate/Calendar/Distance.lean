/-
  RecordTemplate.Calendar.Distance

  The distance between two moments in the largest unit that fits.  Up to a week it is
  measured on the instants; months and years are counted on the calendar, with the day cut
  back to the length of the month.
-/

import RecordTemplate.Calendar.DateTime
import RecordTemplate.Calendar.Locale

namespace RecordTemplate.Calendar

namespace DateTime

/-- The wall clock a number of months after a moment, the day cut back to the length of the
    month it falls in. -/
def wallAfterMonths (t : DateTime) (months : Nat) : Int :=
  let n := t.date.year * 12 + (t.date.month - 1) + months
  let year := n / 12
  let month := n % 12 + 1
  let day := min t.date.day (daysInMonth year month)
  (Date.ordinalOf year month day : Int) * dayMicros + t.time.micros

/-- The distance of a zone from UTC, zero for a local moment. -/
def offsetMicros (t : DateTime) : Int :=
  match t.zone with
  | some z => z.offset
  | none => 0

/-- The instant a number of months after a moment. -/
def afterMonths (t : DateTime) (months : Nat) : Int := t.wallAfterMonths months - t.offsetMicros

/-- The largest number of months, at most the given one, after which a moment is not later
    than an instant. -/
def monthsUntil (start : DateTime) (finish : Int) : Nat → Nat
  | 0 => 0
  | n + 1 => if start.afterMonths (n + 1) ≤ finish then n + 1 else monthsUntil start finish n

/-- The whole months from one moment to a later one. -/
def monthsBetween (start finish : DateTime) : Nat :=
  monthsUntil start finish.instant
    ((finish.date.year * 12 + finish.date.month) - (start.date.year * 12 + start.date.month))

/-- One second in microseconds. -/
def secondMicros : Nat := 1000000

/-- The largest whole unit between two moments, with its count. -/
def distance (now t : DateTime) : Nat × TimeUnit :=
  let total := (now.instant - t.instant).natAbs
  let whole (seconds : Nat) : Nat := total / (seconds * secondMicros)
  if total < 60 * secondMicros then (whole 1, .second)
  else if total < 3600 * secondMicros then (whole 60, .minute)
  else if total < 86400 * secondMicros then (whole 3600, .hour)
  else if total < 604800 * secondMicros then (whole 86400, .day)
  else
    -- from a week on the calendar decides first
    let (start, finish) := if t.instant < now.instant then (t, now) else (now, t)
    let months := monthsBetween start finish
    if 12 ≤ months then (months / 12, .year)
    else if 0 < months then (months, .month)
    else (whole 604800, .week)

/-- The distance between two moments, both local or both with a zone. -/
def distance? (now t : DateTime) : Except Failure (Nat × TimeUnit) := do
  let a ← now.offset?
  let b ← t.offset?
  if a.isSome = b.isSome then return now.distance t else .error .mixedZones

end DateTime
end RecordTemplate.Calendar
