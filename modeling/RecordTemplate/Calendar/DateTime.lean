/-
  RecordTemplate.Calendar.DateTime

  Moments of a day, with or without a zone.  A zone is a fixed distance from UTC; its name
  is what the format letters for a zone print.  Two moments with zones are compared by the
  instant they denote.
-/

import RecordTemplate.Calendar.Date
import RecordTemplate.Failure

namespace RecordTemplate.Calendar

open RecordTemplate.Number

/-! ## Time of day -/

/-- A time of day. -/
structure Time where
  hour : Nat
  minute : Nat
  second : Nat
  microsecond : Nat
  inRange : hour < 24 ∧ minute < 60 ∧ second < 60 ∧ microsecond < 1000000
  deriving DecidableEq

namespace Time

def of? (hour minute second microsecond : Nat) : Option Time :=
  if h : hour < 24 ∧ minute < 60 ∧ second < 60 ∧ microsecond < 1000000 then
    some ⟨hour, minute, second, microsecond, h⟩
  else none

def midnight : Time := ⟨0, 0, 0, 0, by decide⟩

/-- The last time of a day. -/
def lastOfDay : Time := ⟨23, 59, 59, 999999, by decide⟩

/-- Microseconds since midnight. -/
def micros (t : Time) : Nat :=
  ((t.hour * 60 + t.minute) * 60 + t.second) * 1000000 + t.microsecond

/-- The time `n` microseconds after midnight, the day left out of account. -/
def ofMicros (n : Nat) : Time :=
  let n := n % 86400000000
  { hour := n / 3600000000
    minute := n / 60000000 % 60
    second := n / 1000000 % 60
    microsecond := n % 1000000
    inRange := by omega }

end Time

/-! ## Zones -/

/-- A fixed distance from UTC in microseconds, and the name of the zone if it has one. -/
structure Zone where
  offset : Int
  name : Option String
  deriving DecidableEq

/-- Hours and minutes of a distance, then seconds and microseconds if they are not zero. -/
def offsetText (offset : Int) : List Char :=
  let n := offset.natAbs
  let seconds := n / 1000000
  (if offset < 0 then '-' else '+') :: padded 2 (seconds / 3600) ++
    ':' :: padded 2 (seconds / 60 % 60) ++
    (if n % 60000000 = 0 then [] else ':' :: padded 2 (seconds % 60)) ++
    (if n % 1000000 = 0 then [] else '.' :: padded 6 (n % 1000000))

/-- One day in microseconds. -/
def dayMicros : Int := 86400000000

namespace Zone

def utc : Zone := ⟨0, some "UTC"⟩

/-- The zone at a distance from UTC, named for the distance. -/
def fixed (offset : Int) : Zone :=
  if offset = 0 then utc else ⟨offset, some ("UTC" ++ String.ofList (offsetText offset))⟩

/-- The distance of a zone, which must be less than a day. -/
def offset? (z : Zone) : Except Failure Int :=
  if -dayMicros < z.offset ∧ z.offset < dayMicros then .ok z.offset
  else .error .offsetOutOfRange

end Zone

/-! ## Moments -/

/-- A date and a time of day, with a zone unless the moment is local. -/
structure DateTime where
  date : Date
  time : Time
  zone : Option Zone
  deriving DecidableEq

namespace DateTime

/-- The distance from UTC of a moment with a zone. -/
def offset? (t : DateTime) : Except Failure (Option Int) :=
  match t.zone with
  | none => .ok none
  | some z => z.offset?.map some

/-- The date and time of a moment in microseconds, the zone left out of account. -/
def wall (t : DateTime) : Int := (t.date.ordinal : Int) * dayMicros + t.time.micros

/-- The instant of a moment in microseconds; a local moment counts as UTC. -/
def instant (t : DateTime) : Int :=
  t.wall - (match t.zone with | some z => z.offset | none => 0)

/-- The moment with a given wall clock. -/
def ofWall? (wall : Int) (zone : Option Zone) : Option DateTime :=
  if wall < 0 then none
  else (Date.ofOrdinal? (wall / dayMicros).toNat).map fun d =>
    ⟨d, Time.ofMicros (wall % dayMicros).toNat, zone⟩

/-- The ordinal of the first of January 1970. -/
def epochOrdinal : Nat := 719163

/-- The wall clock of the first of January 1970. -/
def epoch : Int := (epochOrdinal : Int) * dayMicros

/-- A local moment taken to be in UTC; others as they are. -/
def asUtc (t : DateTime) : DateTime :=
  match t.zone with
  | none => { t with zone := some .utc }
  | some _ => t

/-! ## Text -/

end DateTime

/-- Year, month and day with hyphens. -/
def Date.isoText (d : Date) : List Char :=
  padded 4 d.year ++ '-' :: padded 2 d.month ++ '-' :: padded 2 d.day

/-- Hours, minutes and seconds with colons, and the microseconds if they are not zero. -/
def Time.isoText (t : Time) : List Char :=
  padded 2 t.hour ++ ':' :: padded 2 t.minute ++ ':' :: padded 2 t.second ++
    (if t.microsecond = 0 then [] else '.' :: padded 6 t.microsecond)

/-- Date and time with `separator` between them, and the distance of the zone. -/
def DateTime.isoText (separator : Char) (t : DateTime) : List Char :=
  t.date.isoText ++ separator :: t.time.isoText ++
    (match t.zone with | some z => offsetText z.offset | none => [])

end RecordTemplate.Calendar
