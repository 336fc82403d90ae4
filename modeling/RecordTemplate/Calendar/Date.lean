/-
  RecordTemplate.Calendar.Date

  Days of the Gregorian calendar, years 1 to 9999.  A date is valid by construction.  The
  ordinal of a date counts days from the first day of year 1, which has ordinal 1 and is a
  Monday.
-/

namespace RecordTemplate.Calendar

/-! ## Months and years -/

def isLeap (year : Nat) : Bool := year % 4 == 0 && (year % 100 != 0 || year % 400 == 0)

def daysInMonth (year month : Nat) : Nat :=
  if month = 2 then (if isLeap year then 29 else 28)
  else if month = 4 ∨ month = 6 ∨ month = 9 ∨ month = 11 then 30
  else 31

/-- The number of days from the first of January of year 1 to that of `year`. -/
def daysBeforeYear (year : Nat) : Nat :=
  let y := year - 1
  365 * y + y / 4 - y / 100 + y / 400

/-- The number of days from the first of January of a year to the first of `month`. -/
def daysBeforeMonth (year month : Nat) : Nat :=
  match month with
  | 0 => 0
  | 1 => 0
  | m + 1 => daysBeforeMonth year m + daysInMonth year m

def minYear : Nat := 1
def maxYear : Nat := 9999

/-- Whether year, month and day name a day of the calendar. -/
def IsDay (year month day : Nat) : Prop :=
  minYear ≤ year ∧ year ≤ maxYear ∧ 1 ≤ month ∧ month ≤ 12 ∧ 1 ≤ day ∧
    day ≤ daysInMonth year month

instance (year month day : Nat) : Decidable (IsDay year month day) := by
  unfold IsDay; infer_instance

/-- A day of the calendar. -/
structure Date where
  year : Nat
  month : Nat
  day : Nat
  isDay : IsDay year month day
  deriving DecidableEq

namespace Date

/-- The day with the given year, month and day of the month. -/
def of? (year month day : Nat) : Option Date :=
  if h : IsDay year month day then some ⟨year, month, day, h⟩ else none

/-! ## Ordinals -/

/-- The ordinal of a year, month and day, also of years outside the calendar. -/
def ordinalOf (year month day : Nat) : Nat :=
  daysBeforeYear year + daysBeforeMonth year month + day

def ordinal (d : Date) : Nat := ordinalOf d.year d.month d.day

/-- The month, counted down from `month`, in which the day with index `n` of the year lies,
    and its day of the month. -/
def monthOfIndex (year n : Nat) : Nat → Nat × Nat
  | 0 => (1, n + 1)
  | month + 1 =>
    let before := daysBeforeMonth year (month + 1)
    if before ≤ n then (month + 1, n - before + 1) else monthOfIndex year n month

/-- The year, month and day of an ordinal, which is at least 1: whole cycles of 400, 100, 4
    and 1 years are split off in turn. -/
def ofOrdinalParts (ordinal : Nat) : Nat × Nat × Nat :=
  let n := ordinal - 1
  let c400 := n / 146097
  let n := n % 146097
  let c100 := n / 36524
  let n := n % 36524
  let c4 := n / 1461
  let n := n % 1461
  let c1 := n / 365
  let n := n % 365
  let year := 400 * c400 + 100 * c100 + 4 * c4 + c1 + 1
  -- the last day of a long cycle is the last day of its last year
  if c1 = 4 ∨ c100 = 4 then (year - 1, 12, 31)
  else
    let md := monthOfIndex year n 12
    (year, md.1, md.2)

def ofOrdinal? (ordinal : Nat) : Option Date :=
  if ordinal = 0 then none
  else
    let (y, m, d) := ofOrdinalParts ordinal
    of? y m d

/-! ## Weeks -/

/-- The day of the week of an ordinal, Monday 0 to Sunday 6. -/
def weekdayOf (ordinal : Nat) : Nat := (ordinal + 6) % 7

/-- The day of the week, Monday 0 to Sunday 6. -/
def weekday (d : Date) : Nat := weekdayOf d.ordinal

/-- The ordinal of the Monday of the first week of a year, the week that holds the first
    Thursday. -/
def firstMonday (year : Nat) : Int :=
  let first := ordinalOf year 1 1
  let w := weekdayOf first
  (first : Int) - w + (if 3 < w then 7 else 0)

/-- The number of the week of a date, by the rule that a week belongs to the year of its
    Thursday. -/
def isoWeek (d : Date) : Nat :=
  let n : Int := d.ordinal
  let start :=
    if n < firstMonday d.year then firstMonday (d.year - 1)
    else if firstMonday (d.year + 1) ≤ n then firstMonday (d.year + 1)
    else firstMonday d.year
  ((n - start) / 7).toNat + 1

/-- The index of a date in its year, from 0. -/
def dayOfYear (d : Date) : Nat := daysBeforeMonth d.year d.month + d.day - 1

end Date
end RecordTemplate.Calendar
