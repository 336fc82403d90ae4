/-
  RecordTemplate.Proofs.Calendar.Ordinals

  Days counted through.  A year begins where the year before it ends, and a month where the month
  before it ends (`daysBeforeYear_succ`, `daysBeforeMonth_succ`).  The day that is found
  for an ordinal has this ordinal, and there is one for every ordinal of the calendar
  (`Date.ordinal_of_ofOrdinal?`, `Date.ofOrdinal?_of_bounds`); likewise for moments and wall clocks
  (`DateTime.wall_of_ofWall?`, `DateTime.ofWall?_of_bounds`).
-/

import RecordTemplate.Calendar.DateTime

namespace RecordTemplate.Calendar

/-! ## Lengths of months and years -/

theorem isLeap_iff {year : Nat} :
    isLeap year = true ↔ year % 4 = 0 ∧ (year % 100 ≠ 0 ∨ year % 400 = 0) := by
  simp [isLeap]

theorem daysInMonth_bounds (year month : Nat) :
    28 ≤ daysInMonth year month ∧ daysInMonth year month ≤ 31 := by
  unfold daysInMonth
  split
  · split <;> omega
  · split <;> omega

/-- The number of days of a year. -/
def yearLength (year : Nat) : Nat := if isLeap year then 366 else 365

theorem daysBeforeMonth_succ (year : Nat) {month : Nat} (h : 1 ≤ month) :
    daysBeforeMonth year (month + 1) = daysBeforeMonth year month + daysInMonth year month := by
  obtain ⟨m, rfl⟩ := Nat.exists_eq_add_of_le' h
  rfl

/-- The months of a year make up its days. -/
theorem daysBeforeMonth_thirteen (year : Nat) : daysBeforeMonth year 13 = yearLength year := by
  unfold yearLength
  cases h : isLeap year <;> simp [daysBeforeMonth, daysInMonth, h]

theorem daysBeforeMonth_le {year month month' : Nat} (h : month ≤ month') :
    daysBeforeMonth year month ≤ daysBeforeMonth year month' := by
  induction h with
  | refl => exact Nat.le_refl _
  | @step m h ih =>
    obtain rfl | hm := Nat.eq_zero_or_pos m
    · exact ih
    · rw [daysBeforeMonth_succ year hm]
      omega

theorem daysBeforeYear_succ {year : Nat} (h : 1 ≤ year) :
    daysBeforeYear (year + 1) = daysBeforeYear year + yearLength year := by
  have hlength : yearLength year + (if year % 100 = 0 then 1 else 0) =
      365 + (if year % 4 = 0 then 1 else 0) + if year % 400 = 0 then 1 else 0 := by
    simp only [yearLength, isLeap_iff]
    repeat' split
    all_goals omega
  have hfour : year / 4 = (year - 1) / 4 + if year % 4 = 0 then 1 else 0 := by
    split <;> omega
  have hhundred : year / 100 = (year - 1) / 100 + if year % 100 = 0 then 1 else 0 := by
    split <;> omega
  have hcycle : year / 400 = (year - 1) / 400 + if year % 400 = 0 then 1 else 0 := by
    split <;> omega
  unfold daysBeforeYear
  dsimp only
  rw [Nat.add_sub_cancel, hfour, hhundred, hcycle]
  omega

theorem daysBeforeYear_le {year year' : Nat} (h : year ≤ year') :
    daysBeforeYear year ≤ daysBeforeYear year' := by
  induction h with
  | refl => exact Nat.le_refl _
  | @step m h ih =>
    obtain rfl | hm := Nat.eq_zero_or_pos m
    · exact ih
    · rw [daysBeforeYear_succ hm]
      omega

/-- The days before a year whose number, less one, is split into cycles of 400, 100, 4 and 1
    years. -/
theorem daysBeforeYear_cycles {a b c d : Nat} (hd : d < 4) (hc : 4 * c + d < 100)
    (hb : 100 * b + 4 * c + d < 400) :
    daysBeforeYear (400 * a + 100 * b + 4 * c + d + 1) =
      146097 * a + 36524 * b + 1461 * c + 365 * d := by
  have hfour : (400 * a + 100 * b + 4 * c + d) / 4 = 100 * a + 25 * b + c := by omega
  have hhundred : (400 * a + 100 * b + 4 * c + d) / 100 = 4 * a + b := by omega
  have hcycle : (400 * a + 100 * b + 4 * c + d) / 400 = a := by omega
  unfold daysBeforeYear
  dsimp only
  rw [Nat.add_sub_cancel, hfour, hhundred, hcycle]
  omega

/-- The number of days of the calendar. -/
def calendarDays : Nat := daysBeforeYear (maxYear + 1)

theorem calendarDays_eq : calendarDays = 3652059 := by decide

/-! ## The day of an ordinal -/

namespace Date

/-- The ordinals of a year are those between its beginning and that of the next year. -/
theorem ordinal_bounds (d : Date) :
    daysBeforeYear d.year < d.ordinal ∧ d.ordinal ≤ daysBeforeYear (d.year + 1) := by
  obtain ⟨hyear, -, hmonth, hmonth', hday, hday'⟩ := d.isDay
  have hend := daysBeforeMonth_succ d.year hmonth
  have hyearEnd : daysBeforeMonth d.year (d.month + 1) ≤ daysBeforeMonth d.year 13 :=
    daysBeforeMonth_le (Nat.add_le_add_right hmonth' 1)
  rw [daysBeforeMonth_thirteen] at hyearEnd
  rw [daysBeforeYear_succ hyear, ordinal, ordinalOf]
  omega

theorem ordinal_mem (d : Date) : 1 ≤ d.ordinal ∧ d.ordinal ≤ calendarDays := by
  have hbounds := d.ordinal_bounds
  have hlast : daysBeforeYear (d.year + 1) ≤ calendarDays :=
    daysBeforeYear_le (Nat.add_le_add_right d.isDay.2.1 1)
  omega

/-- The month and the day of the month of an index below the end of a month. -/
theorem monthOfIndex_spec (year n : Nat) {month : Nat} (h : n < daysBeforeMonth year (month + 1)) :
    1 ≤ (monthOfIndex year n month).1 ∧ (monthOfIndex year n month).1 ≤ month ∧
      1 ≤ (monthOfIndex year n month).2 ∧
      (monthOfIndex year n month).2 ≤ daysInMonth year (monthOfIndex year n month).1 ∧
      daysBeforeMonth year (monthOfIndex year n month).1 + (monthOfIndex year n month).2 =
        n + 1 := by
  induction month with
  | zero => exact absurd h (Nat.not_lt_zero n)
  | succ month ih =>
    rw [daysBeforeMonth_succ year (by omega)] at h
    unfold monthOfIndex
    dsimp only
    split
    · dsimp only
      omega
    · have := ih (by omega)
      omega

/-- The last day of a year. -/
theorem ordinalOf_last {year : Nat} (h : 1 ≤ year) :
    ordinalOf year 12 31 = daysBeforeYear (year + 1) := by
  have hdecember := daysBeforeMonth_succ year (show 1 ≤ 12 by decide)
  have hdays : daysInMonth year 12 = 31 := rfl
  rw [daysBeforeMonth_thirteen, hdays] at hdecember
  rw [daysBeforeYear_succ h, hdecember, ordinalOf]
  omega

/-- Splitting off whole cycles gives a day of its month with the ordinal, within the calendar if
    the ordinal is. -/
theorem ofOrdinalParts_spec {n : Nat} (hlow : 1 ≤ n) :
    ordinalOf (ofOrdinalParts n).1 (ofOrdinalParts n).2.1 (ofOrdinalParts n).2.2 = n ∧
      (n ≤ calendarDays →
        IsDay (ofOrdinalParts n).1 (ofOrdinalParts n).2.1 (ofOrdinalParts n).2.2) := by
  rw [calendarDays_eq]
  unfold ofOrdinalParts IsDay minYear maxYear
  dsimp only
  -- the digits of the day in cycles, each below its bound
  obtain ⟨a, r, ha, hr, hn⟩ : ∃ a r, (n - 1) / 146097 = a ∧ (n - 1) % 146097 = r ∧
      n = 146097 * a + r + 1 := ⟨_, _, rfl, rfl, by omega⟩
  obtain ⟨b, s, hb, hs, hr'⟩ : ∃ b s, r / 36524 = b ∧ r % 36524 = s ∧ r = 36524 * b + s :=
    ⟨_, _, rfl, rfl, by omega⟩
  obtain ⟨c, t, hc, ht, hs'⟩ : ∃ c t, s / 1461 = c ∧ s % 1461 = t ∧ s = 1461 * c + t :=
    ⟨_, _, rfl, rfl, by omega⟩
  obtain ⟨d, u, hd, hu, ht'⟩ : ∃ d u, t / 365 = d ∧ t % 365 = u ∧ t = 365 * d + u :=
    ⟨_, _, rfl, rfl, by omega⟩
  have hrange : r < 146097 ∧ s < 36524 ∧ t < 1461 ∧ u < 365 := by omega
  rw [ha, hr, hb, hs, hc, ht, hd, hu]
  split
  · next hlast =>
    -- a fourth cycle holds one day, the last of the year before
    obtain ⟨a, b, c, hyear, hc, hb, hn⟩ : ∃ a' b' c', 400 * a + 100 * b + 4 * c + d =
        400 * a' + 100 * b' + 4 * c' ∧ 4 * c' < 100 ∧ 100 * b' + 4 * c' < 400 ∧
          n = 146097 * a' + 36524 * b' + 1461 * c' := by
      by_cases hfourth : b = 4
      · exact ⟨a + 1, 0, 0, by omega⟩
      · exact ⟨a, b, c + 1, by omega⟩
    have hordinal := daysBeforeYear_cycles (a := a) (d := 0) (by omega) hc hb
    rw [Nat.add_zero] at hordinal
    dsimp only
    rw [Nat.add_sub_cancel, hyear, ordinalOf_last (by omega)]
    refine ⟨by omega, fun hhigh => ?_⟩
    exact ⟨by omega, by omega, by omega, by omega, by omega, Nat.le_refl 31⟩
  · next hinner =>
    have hordinal := daysBeforeYear_cycles (a := a) (b := b) (c := c) (d := d) (by omega)
      (by omega) (by omega)
    have hindex : u < daysBeforeMonth (400 * a + 100 * b + 4 * c + d + 1) (12 + 1) := by
      rw [daysBeforeMonth_thirteen, yearLength]
      split <;> omega
    obtain ⟨hmonth, hmonth', hday, hday', hsum⟩ := monthOfIndex_spec _ u hindex
    dsimp only
    refine ⟨?_, fun hhigh => ⟨by omega, by omega, hmonth, hmonth', hday, hday'⟩⟩
    rw [ordinalOf, hordinal]
    omega

/-- The day of an ordinal has this ordinal. -/
theorem ordinal_of_ofOrdinal? {n : Nat} {d : Date} (h : ofOrdinal? n = some d) :
    d.ordinal = n := by
  unfold ofOrdinal? at h
  split at h
  · cases h
  · next hn =>
    dsimp only [of?] at h
    split at h
    · cases h
      exact (ofOrdinalParts_spec (by omega)).1
    · cases h

/-- Every number of the calendar's days is the ordinal of a day. -/
theorem ofOrdinal?_of_bounds {n : Nat} (hlow : 1 ≤ n) (hhigh : n ≤ calendarDays) :
    ∃ d, ofOrdinal? n = some d := by
  have hday := (ofOrdinalParts_spec hlow).2 hhigh
  refine ⟨⟨_, _, _, hday⟩, ?_⟩
  unfold ofOrdinal?
  rw [if_neg (by omega)]
  exact dif_pos hday

end Date

/-! ## The moment of a wall clock -/

theorem Time.micros_lt (t : Time) : (t.micros : Int) < dayMicros := by
  obtain ⟨hhour, hminute, hsecond, hmicro⟩ := t.inRange
  unfold Time.micros dayMicros
  omega

theorem Time.micros_ofMicros {n : Nat} (h : (n : Int) < dayMicros) :
    (Time.ofMicros n).micros = n := by
  unfold dayMicros at h
  unfold Time.ofMicros Time.micros
  dsimp only
  omega

namespace DateTime

/-- The wall clock before which no moment is. -/
def firstWall : Int := dayMicros

/-- The wall clock from which on no moment is. -/
def endWall : Int := ((calendarDays + 1 : Nat) : Int) * dayMicros

theorem wall_mem (t : DateTime) : firstWall ≤ t.wall ∧ t.wall < endWall := by
  have hordinal := t.date.ordinal_mem
  have htime := t.time.micros_lt
  unfold dayMicros at htime
  unfold wall firstWall endWall dayMicros
  omega

/-- The moment of a wall clock has this wall clock. -/
theorem wall_of_ofWall? {wall : Int} {zone : Option Zone} {t : DateTime}
    (h : ofWall? wall zone = some t) : t.wall = wall ∧ t.zone = zone := by
  unfold ofWall? at h
  split at h
  · cases h
  · next hwall =>
    obtain ⟨d, hd, rfl⟩ := Option.map_eq_some_iff.1 h
    have htime : ((wall % dayMicros).toNat : Int) < dayMicros := by
      unfold dayMicros
      omega
    refine ⟨?_, rfl⟩
    unfold DateTime.wall
    rw [Date.ordinal_of_ofOrdinal? hd, Time.micros_ofMicros htime]
    unfold dayMicros
    omega

/-- Every wall clock within the days of the calendar is that of a moment. -/
theorem ofWall?_of_bounds {wall : Int} (hlow : firstWall ≤ wall) (hhigh : wall < endWall)
    (zone : Option Zone) : ∃ t, ofWall? wall zone = some t := by
  unfold firstWall dayMicros at hlow
  unfold endWall dayMicros at hhigh
  obtain ⟨d, hd⟩ := Date.ofOrdinal?_of_bounds (n := (wall / dayMicros).toNat)
    (by unfold dayMicros; omega) (by unfold dayMicros; omega)
  refine ⟨⟨d, Time.ofMicros (wall % dayMicros).toNat, zone⟩, ?_⟩
  unfold ofWall?
  rw [if_neg (by omega), hd]
  rfl

end DateTime
end RecordTemplate.Calendar
