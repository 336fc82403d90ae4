/-
  RecordTemplate.Calendar.Format

  Dates written by a format of letters: each letter with a meaning stands for a part of the
  date, a backslash takes the meaning from the character behind it, and all else stands for
  itself.
-/

import RecordTemplate.Calendar.DateTime
import RecordTemplate.Calendar.Locale
import RecordTemplate.Number.Binary64

namespace RecordTemplate.Calendar

open RecordTemplate.Text RecordTemplate.Number

/-! ## Parts of a date -/

/-- The English ending of an ordinal number. -/
def ordinalEnding (day : Nat) : String :=
  if 11 ≤ day % 100 ∧ day % 100 ≤ 13 then "th"
  else if day % 10 = 1 then "st"
  else if day % 10 = 2 then "nd"
  else if day % 10 = 3 then "rd"
  else "th"

/-- The hour on a dial of twelve. -/
def hour12 (t : Time) : Nat := if t.hour % 12 = 0 then 12 else t.hour % 12

namespace DateTime

def monthName (t : DateTime) (l : Locale) : List Char :=
  (l.months.getD (t.date.month - 1) "").toList

def weekdayName (t : DateTime) (l : Locale) : List Char :=
  (l.weekdays.getD t.date.weekday "").toList

/-- The name of the zone; a moment without one counts as UTC. -/
def zoneName (t : DateTime) : List Char :=
  match t.zone.bind Zone.name with
  | none => "UTC".toList
  | some name => if name = "" then "UTC".toList else name.toList

/-- Sign, hours and minutes of the distance from UTC, seconds left out. -/
def offsetDigits (t : DateTime) (separator : List Char) : Except Failure (List Char) := do
  let offset := (← t.offset?).getD 0
  let seconds : Int := Int.tdiv offset 1000000
  let minutes := seconds.natAbs / 60
  return (if seconds < 0 then '-' else '+') :: padded 2 (minutes / 60) ++ separator ++
    padded 2 (minutes % 60)

/-- Whole seconds since the epoch, toward zero.  The distance in microseconds is rounded to
    a double precision number of seconds first. -/
def unixSeconds (t : DateTime) : Except Failure Int := do
  let _ ← t.offset?
  let n := t.instant - epoch
  match Binary64.ofRatio (n < 0) n.natAbs 1000000 with
  | .finite negative m e => return Binary64.truncate negative m e
  | _ => return 0

/-! ## Letters -/

/-- The letters that stand for another format, which is written in English. -/
def compound? : Char → Option String
  | 'c' => some "Y-m-d\\TH:i:sP"
  | 'r' => some "D, d M Y H:i:s O"
  | _ => none

/-- What a letter stands for; nothing if it has no meaning of its own. -/
def letter? (t : DateTime) (l : Locale) (c : Char) : Option (Except Failure (List Char)) :=
  match c with
  | 'd' => some (.ok (padded 2 t.date.day))
  | 'j' => some (.ok (digits t.date.day))
  | 'D' => some (.ok ((t.weekdayName l).take 3))
  | 'l' => some (.ok (t.weekdayName l))
  | 'N' => some (.ok (digits (t.date.weekday + 1)))
  | 'w' => some (.ok (digits ((t.date.weekday + 1) % 7)))
  | 'z' => some (.ok (digits t.date.dayOfYear))
  | 'S' => some (.ok (ordinalEnding t.date.day).toList)
  | 'W' => some (.ok (padded 2 t.date.isoWeek))
  | 'F' => some (.ok (t.monthName l))
  | 'M' => some (.ok ((t.monthName l).take 3))
  | 'm' => some (.ok (padded 2 t.date.month))
  | 'n' => some (.ok (digits t.date.month))
  | 't' => some (.ok (digits (daysInMonth t.date.year t.date.month)))
  | 'L' => some (.ok [if isLeap t.date.year then '1' else '0'])
  | 'Y' => some (.ok (padded 4 t.date.year))
  | 'y' => some (.ok (padded 2 (t.date.year % 100)))
  | 'a' => some (.ok (if t.time.hour < 12 then "am".toList else "pm".toList))
  | 'A' => some (.ok (if t.time.hour < 12 then "AM".toList else "PM".toList))
  | 'g' => some (.ok (digits (hour12 t.time)))
  | 'G' => some (.ok (digits t.time.hour))
  | 'h' => some (.ok (padded 2 (hour12 t.time)))
  | 'H' => some (.ok (padded 2 t.time.hour))
  | 'i' => some (.ok (padded 2 t.time.minute))
  | 's' => some (.ok (padded 2 t.time.second))
  | 'u' => some (.ok (padded 6 t.time.microsecond))
  | 'v' => some (.ok (padded 3 (t.time.microsecond / 1000)))
  | 'e' => some (.ok t.zoneName)
  | 'T' => some (.ok t.zoneName)
  | 'P' => some (t.offsetDigits [':'])
  | 'O' => some (t.offsetDigits [])
  | 'U' => some (t.unixSeconds.map intText)
  | _ => none

/-- A format written out, its characters given by `write`. -/
def expand (write : Char → Except Failure (List Char)) : List Char → Except Failure (List Char)
  | [] => .ok []
  -- a backslash at the end escapes nothing and is dropped
  | '\\' :: [] => .ok []
  | '\\' :: c :: rest => do return c :: (← expand write rest)
  | c :: rest => do
    let s ← write c
    return s ++ (← expand write rest)

/-- One character of a format, compound letters left as they are. -/
def writeLetter (t : DateTime) (l : Locale) (c : Char) : Except Failure (List Char) :=
  (t.letter? l c).getD (.ok [c])

/-- One character of a format. -/
def writeChar (t : DateTime) (l : Locale) (c : Char) : Except Failure (List Char) :=
  match compound? c with
  | some f => expand (t.writeLetter .english) f.toList
  | none => t.writeLetter l c

/-- A moment written by a format. -/
def format (t : DateTime) (l : Locale) (f : List Char) : Except Failure (List Char) :=
  expand (t.writeChar l) f

end DateTime
end RecordTemplate.Calendar
