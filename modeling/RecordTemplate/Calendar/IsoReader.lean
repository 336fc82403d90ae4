/-
  RecordTemplate.Calendar.IsoReader

  Dates in ISO 8601 form: a calendar date or a week date, with or without hyphens, then any
  one separator, a time with or without colons, and the distance of a zone.  Positions are
  counted in bytes of UTF-8; `widened` repeats a character once per byte.
-/

import RecordTemplate.Calendar.DateTime
import RecordTemplate.Text.Search

namespace RecordTemplate.Calendar

open RecordTemplate.Text RecordTemplate.Number

/-! ## Week dates -/

/-- Whether a year has a fifty-third week: it begins on a Thursday, or on a Wednesday in a
    leap year. -/
def hasLongYear (year : Nat) : Bool :=
  let w := Date.weekdayOf (Date.ordinalOf year 1 1)
  w == 3 || (w == 2 && isLeap year)

/-- The day with a given week and day of the week, both counted from 1. -/
def Date.ofWeek? (year week weekday : Nat) : Option Date :=
  if year = 0 ∨ week = 0 ∨ 53 < week ∨ (week = 53 ∧ !hasLongYear year) then none
  else if weekday = 0 ∨ 7 < weekday then none
  else
    let ordinal := Date.firstMonday year + ((week - 1) * 7 + weekday - 1 : Nat)
    if ordinal ≤ 0 then none else Date.ofOrdinal? ordinal.toNat

/-! ## Pieces -/

/-- A text with every character repeated once per byte of its UTF-8 form. -/
def widened (s : List Char) : List Char := s.flatMap fun c => List.replicate c.utf8Size c

/-- Exactly `n` ASCII digits at the beginning of a text, and the rest. -/
def takeDigits? (n : Nat) (s : List Char) : Option (Nat × List Char) :=
  let ds := s.take n
  if ds.length = n ∧ ds.all isAsciiDigit then some (digitsValue ds, s.drop n) else none

/-- The first character of a text, or the null character at its end. -/
def peek (s : List Char) : Char := s.headD '\x00'

/-! ## The date -/

/-- Where the separator between date and time stands.  The fifth and sixth characters tell
    the forms of dates apart; in a week date without hyphens the parity of the run of digits
    does. -/
def separatorAt? (s : List Char) : Option Nat :=
  let digitAt (i : Nat) : Bool := (s[i]?).any isAsciiDigit
  if s.length < 7 then none
  else if s.length = 7 then some 7
  -- with hyphens a date is ten characters long, a week date eight or ten
  else if s[4]? = some '-' then
    if s[5]? = some 'W' then
      if 8 < s.length ∧ s[8]? = some '-' then
        if s.length = 9 then none
        else if digitAt 10 then some 8 else some 10
      else some 8
    else some 10
  -- a week date without hyphens, with or without the day
  else if s[4]? = some 'W' then
    let stop := 7 + ((s.drop 7).takeWhile isAsciiDigit).length
    if stop < 9 then some stop else if stop % 2 = 0 then some 7 else some 8
  else some 8

/-- The date before the separator, which stands at index `stop`. -/
def readIsoDate? (s : List Char) (stop : Nat) : Option Date := do
  let (year, r) ← takeDigits? 4 s
  let hyphens := peek r == '-'
  let r := if hyphens then r.drop 1 else r
  let pastHyphen (r : List Char) := if hyphens then after? ['-'] r else some r
  if peek r == 'W' then
    let (week, r) ← takeDigits? 2 (r.drop 1)
    let (day, _) ←
      if s.length - r.length < stop then pastHyphen r >>= takeDigits? 1 else some (1, r)
    Date.ofWeek? year week day
  else
    let (month, r) ← takeDigits? 2 r
    let r ← pastHyphen r
    let (day, r) ← takeDigits? 2 r
    if s.length - r.length = stop then Date.of? year month day else none

/-! ## The time -/

/-- What follows the hours, minutes and seconds of a clock. -/
inductive ClockRest where
  /-- Nothing is read any more; `junk` says that a character stands there. -/
  | done (junk : Bool)
  /-- A fraction of a second, within the first `region` characters of `text`. -/
  | fraction (region : Nat) (text : List Char)

/-- Up to `count` numbers of two digits within the first `region` characters of a text.
    `colons` says whether they are separated by colons, once that is known. -/
def clockFields? (colons : Option Bool) : Nat → Nat → List Char → Option (List Nat × ClockRest)
  | 0, region, s => some ([], .fraction region s)
  | count + 1, region, s => do
    let (n, r) ← takeDigits? 2 s
    let c := peek r
    let colons := colons.getD (c == ':')
    let left := region - 2
    -- one character cannot hold another field
    if left ≤ 1 then some ([n], .done (c ≠ '\x00'))
    else if colons ∧ c = ':' then
      (clockFields? (some colons) count (left - 1) (r.drop 1)).map fun (ns, t) => (n :: ns, t)
    else if c = '.' ∨ c = ',' then some ([n], .fraction (left - 1) (r.drop 1))
    else if colons then none
    else (clockFields? (some colons) count left r).map fun (ns, t) => (n :: ns, t)

/-- Hour, minute, second and microsecond. -/
structure Clock where
  hour : Nat
  minute : Nat
  second : Nat
  microsecond : Nat

/-- The seconds of a clock, its fraction left out. -/
def Clock.seconds (c : Clock) : Nat := (c.hour * 60 + c.minute) * 60 + c.second

/-- The clock at the beginning of a text, within its first `region` characters, and whether
    anything stands behind it. -/
def readClock? (region : Nat) (s : List Char) : Option (Clock × Bool) := do
  let (ns, rest) ← clockFields? none 3 region s
  let clock : Clock := ⟨ns.getD 0 0, ns.getD 1 0, ns.getD 2 0, 0⟩
  match rest with
  | .done junk => some (clock, junk)
  | .fraction region s =>
    let count := min 6 region
    let (n, r) ← takeDigits? count s
    some ({ clock with microsecond := n * Nat.pow 10 (6 - count) },
      peek (r.dropWhile isAsciiDigit) ≠ '\x00')

/-- The time of day and the zone of a text that is not empty.  Between a clock and the sign
    of a zone there may be something that is skipped; a distance of zero is UTC. -/
def readIsoTime? (s : List Char) : Option (Time × Option Zone) := do
  if s = [] then none
  let region := (s.takeWhile fun c => c ≠ '+' ∧ c ≠ '-').length
  let (clock, junk) ← readClock? region s
  let time ← Time.of? clock.hour clock.minute clock.second clock.microsecond
  -- without a sign the time is local
  if region = s.length then
    if junk then none else some (time, none)
  else
    let s := s.drop region
    let (distance, junk) ← readClock? (s.length - 1) (s.drop 1)
    -- a distance is read like a clock
    if junk then none
    let n : Int := distance.seconds * 1000000 + distance.microsecond
    let offset := if distance.seconds = 0 then 0 else if peek s = '-' then -n else n
    if -dayMicros < offset ∧ offset < dayMicros then some (time, some (.fixed offset))
    else none

/-! ## Both -/

/-- The moment written in ISO 8601 form; a date alone is its midnight.  A separator must be
    followed by a time. -/
def DateTime.readIso? (text : List Char) : Option DateTime := do
  let s := widened text
  let stop ← separatorAt? s
  let date ← readIsoDate? s stop
  match s.drop stop with
  | [] => some ⟨date, .midnight, none⟩
  | separator :: rest =>
    let (time, zone) ← readIsoTime? (rest.drop (separator.utf8Size - 1))
    some ⟨date, time, zone⟩

end RecordTemplate.Calendar
