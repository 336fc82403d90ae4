/-
  RecordTemplate.Proofs.Calendar.LargestUnit

  The distance of two local moments is given in the largest unit that fits between them, and
  counts as many of these as fit (`DateTime.distance?_isLargest`).  What fits is told by going
  forward from the earlier moment: seconds to weeks are lengths of time, months and years are
  counted on the calendar with the day cut back to the length of the month.
-/

import Mathlib.Order.Nat
import RecordTemplate.Proofs.Calendar.Months

namespace RecordTemplate.Calendar

/-! ## Units -/

namespace TimeUnit

/-- The length of a unit that is always as long, in seconds. -/
def seconds? : TimeUnit → Option Nat
  | second => some 1
  | minute => some 60
  | hour => some 3600
  | day => some 86400
  | week => some 604800
  | month | year => none

/-- The units that are larger than a unit. -/
def above (unit : TimeUnit) : List TimeUnit := (all.dropWhile (· ≠ unit)).drop 1

end TimeUnit

namespace DateTime

/-! ## Going forward -/

/-- The moment a number of seconds after a moment, if the calendar reaches so far. -/
def later? (t : DateTime) (seconds : Nat) : Option DateTime :=
  ofWall? (t.wall + (seconds * secondMicros : Nat)) t.zone

/-- A moment moved to a month of a year, the day cut back to the length of the month, if the
    calendar reaches so far. -/
def inMonth? (t : DateTime) (year month : Nat) : Option DateTime :=
  (Date.of? year month (min t.date.day (daysInMonth year month))).map fun d => { t with date := d }

/-- The moment a number of units after a moment, if the calendar reaches so far. -/
def plus? (t : DateTime) (count : Nat) : TimeUnit → Option DateTime
  | .second => t.later? count
  | .minute => t.later? (count * 60)
  | .hour => t.later? (count * 3600)
  | .day => t.later? (count * 86400)
  | .week => t.later? (count * 604800)
  | .month =>
    t.inMonth? (t.date.year + (t.date.month - 1 + count) / 12) ((t.date.month - 1 + count) % 12 + 1)
  | .year => t.inMonth? (t.date.year + count) t.date.month

/-- A number of units fits between two moments: going forward by them from the first does not pass
    the second.  What is past the end of the calendar passes every moment. -/
def Fits (start finish : DateTime) (count : Nat) (unit : TimeUnit) : Prop :=
  ∃ t, start.plus? count unit = some t ∧ t.instant ≤ finish.instant

/-- A unit is the largest that fits between two moments, and it fits a number of times but not once
    more.  Only seconds may not fit at all. -/
structure IsLargest (start finish : DateTime) (count : Nat) (unit : TimeUnit) : Prop where
  fits : Fits start finish count unit
  not_succ : ¬ Fits start finish (count + 1) unit
  none_above : ∀ larger ∈ unit.above, ¬ Fits start finish 1 larger
  pos : 1 ≤ count ∨ unit = .second

section SameZone

variable {start finish : DateTime} (hzone : start.zone = finish.zone)

include hzone

theorem offsetMicros_congr : start.offsetMicros = finish.offsetMicros := by
  unfold offsetMicros
  rw [hzone]

/-- A unit of one length fits as often as it goes into the time between. -/
theorem fits_iff_of_seconds? {count seconds : Nat} {unit : TimeUnit}
    (hunit : unit.seconds? = some seconds) :
    Fits start finish count unit ↔
      start.instant + (count * seconds * secondMicros : Nat) ≤ finish.instant := by
  have hplus : start.plus? count unit =
      ofWall? (start.wall + (count * seconds * secondMicros : Nat)) start.zone := by
    cases unit <;> cases hunit <;> simp [plus?, later?]
  have hoffset := offsetMicros_congr hzone
  unfold Fits
  rw [hplus, instant_eq start, instant_eq finish]
  constructor
  · rintro ⟨t, ht, hle⟩
    obtain ⟨hwall, htzone⟩ := wall_of_ofWall? ht
    rw [instant_eq t, offsetMicros_congr htzone] at hle
    omega
  · intro hle
    have hfirst := start.wall_mem.1
    have hlast := finish.wall_mem.2
    have hlow : firstWall ≤ start.wall + (count * seconds * secondMicros : Nat) := by omega
    have hhigh : start.wall + (count * seconds * secondMicros : Nat) < endWall := by omega
    obtain ⟨t, ht⟩ := ofWall?_of_bounds hlow hhigh start.zone
    obtain ⟨hwall, htzone⟩ := wall_of_ofWall? ht
    refine ⟨t, ht, ?_⟩
    rw [instant_eq t, offsetMicros_congr htzone]
    omega

/-- Between moments of one zone the instants decide how many months fit. -/
theorem monthNumber_of_afterMonths_le {months : Nat}
    (h : start.afterMonths months ≤ finish.instant) :
    start.date.monthNumber + months ≤ finish.date.monthNumber := by
  by_contra hnumber
  have hday := start.date.isDay.2.2.2.2.1
  have hlater := finish.date.ordinal_lt_ordinalInMonth (not_le.1 hnumber) hday
  have hoffset := offsetMicros_congr hzone
  have htime := finish.time.micros_lt
  unfold afterMonths at h
  rw [wallAfterMonths_eq, instant_eq, hoffset, wall] at h
  unfold dayMicros at h htime
  omega

omit hzone in
/-- Moving to the month of a number gives the moment so many months after. -/
theorem inMonth?_spec {t : DateTime} {year month months : Nat}
    (hnumber : t.date.monthNumber + months = year * 12 + (month - 1)) (hmonth : 1 ≤ month)
    (hmonth' : month ≤ 12) :
    (year ≤ maxYear → ∃ t', t.inMonth? year month = some t') ∧
      ∀ t', t.inMonth? year month = some t' → t'.instant = t.afterMonths months := by
  have hday := t.date.isDay.2.2.2.2.1
  have hfirst := t.date.monthNumber_spec.2.2
  have hlength := daysInMonth_bounds year month
  have hyear : (t.date.monthNumber + months) / 12 = year := by omega
  have hmonth'' : (t.date.monthNumber + months) % 12 + 1 = month := by omega
  unfold inMonth? Date.of?
  constructor
  · intro hmax
    have hisDay : IsDay year month (min t.date.day (daysInMonth year month)) := by
      unfold IsDay minYear
      omega
    rw [dif_pos hisDay]
    exact ⟨_, rfl⟩
  · intro t' ht'
    split at ht'
    · cases ht'
      have hordinal : ordinalInMonth (t.date.monthNumber + months) t.date.day =
          Date.ordinalOf year month (min t.date.day (daysInMonth year month)) := by
        unfold ordinalInMonth daysBeforeNumber daysOfNumber
        rw [hyear, hmonth'']
        rfl
      rw [afterMonths, wallAfterMonths_eq, hordinal]
      rfl
    · cases ht'

/-- Units that move to another month fit while the second moment has not passed. -/
theorem fits_iff_of_inMonth? {count year month : Nat} (months : Nat) {unit : TimeUnit}
    (hplus : start.plus? count unit = start.inMonth? year month)
    (hnumber : start.date.monthNumber + months = year * 12 + (month - 1)) (hmonth : 1 ≤ month)
    (hmonth' : month ≤ 12) :
    Fits start finish count unit ↔ start.afterMonths months ≤ finish.instant := by
  obtain ⟨hmoves, hinstant⟩ := inMonth?_spec hnumber hmonth hmonth'
  unfold Fits
  rw [hplus]
  constructor
  · rintro ⟨t, ht, hle⟩
    rwa [← hinstant t ht]
  · intro hle
    have hreached := monthNumber_of_afterMonths_le hzone hle
    have hlast := finish.date.isDay.2.1
    have hlast' := finish.date.isDay.2.2.2.1
    unfold Date.monthNumber at hreached hnumber
    obtain ⟨t, ht⟩ := hmoves (by omega)
    exact ⟨t, ht, by rwa [hinstant t ht]⟩

theorem fits_month_iff {count : Nat} :
    Fits start finish count .month ↔ start.afterMonths count ≤ finish.instant := by
  have hmonth := start.date.isDay.2.2.1
  refine fits_iff_of_inMonth? hzone count rfl ?_ (by omega) (by omega)
  unfold Date.monthNumber
  omega

/-- A year is twelve months. -/
theorem fits_year_iff {count : Nat} :
    Fits start finish count .year ↔ start.afterMonths (12 * count) ≤ finish.instant := by
  have hmonth := start.date.isDay.2.2.1
  refine fits_iff_of_inMonth? hzone (12 * count) rfl ?_ hmonth start.date.isDay.2.2.2.1
  unfold Date.monthNumber
  omega

theorem le_monthsBetween_iff_of_zone {count : Nat} (hcount : 0 < count) :
    count ≤ monthsBetween start finish ↔ start.afterMonths count ≤ finish.instant := by
  rw [le_monthsBetween_iff _ _ hcount]
  exact and_iff_right_of_imp (monthNumber_of_afterMonths_le hzone)

end SameZone

/-! ## The distance -/

/-- The distance is the same in both directions. -/
theorem distance_comm (a b : DateTime) : a.distance b = b.distance a := by
  have htotal : (a.instant - b.instant).natAbs = (b.instant - a.instant).natAbs := by omega
  obtain heq | hne := eq_or_ne a.instant b.instant
  · -- nothing lies between: no seconds either way
    have hnone : (b.instant - a.instant).natAbs < 60 * secondMicros := by
      unfold secondMicros
      omega
    unfold distance
    simp only [htotal, if_pos hnone]
  · have hsorted : (if b.instant < a.instant then (b, a) else (a, b)) =
        if a.instant < b.instant then (a, b) else (b, a) := by
      by_cases hlt : a.instant < b.instant
      · rw [if_neg (by omega), if_pos hlt]
      · rw [if_pos (by omega), if_neg hlt]
    unfold distance
    simp only [htotal, hsorted]

/-- The answer from a week on, when so many weeks and so many months have passed. -/
def calendarUnits (weeks months : Nat) : Nat × TimeUnit :=
  if 12 ≤ months then (months / 12, .year)
  else if 0 < months then (months, .month)
  else (weeks, .week)

/-- The units below a week with their lengths, each with that of the next one. -/
def shortUnits : List (TimeUnit × Nat × Nat) :=
  [(.second, 1, 60), (.minute, 60, 3600), (.hour, 3600, 86400), (.day, 86400, 604800)]

/-- The units below a week have the lengths they are listed with, and no larger unit is shorter
    than the next one. -/
theorem seconds?_of_mem_shortUnits : ∀ p ∈ shortUnits, p.1.seconds? = some p.2.1 ∧ 0 < p.2.1 ∧
    ∀ larger ∈ p.1.above, p.2.2 ≤ larger.seconds?.getD (28 * 86400) := by
  decide

/-- What the distance from a moment to a later one can be. -/
theorem distance_cases {start finish : DateTime} {total : Nat}
    (htotal : start.instant + (total : Int) = finish.instant) :
    (∃ unit seconds next, (unit, seconds, next) ∈ shortUnits ∧
        start.distance finish = (total / (seconds * secondMicros), unit) ∧
        (seconds * secondMicros ≤ total ∨ unit = .second) ∧ total < next * secondMicros) ∨
      604800 * secondMicros ≤ total ∧ start.distance finish =
        calendarUnits (total / (604800 * secondMicros)) (monthsBetween start finish) := by
  have habs : (start.instant - finish.instant).natAbs = total := by omega
  have hsorted : ¬ finish.instant < start.instant := by omega
  unfold distance calendarUnits
  simp only [habs, if_neg hsorted]
  split
  · next hminute => exact .inl ⟨_, _, _, .head _, rfl, .inr rfl, hminute⟩
  · split
    · next hhour => exact .inl ⟨_, _, _, .tail _ (.head _), rfl, .inl (by omega), hhour⟩
    · split
      · next hday => exact .inl ⟨_, _, _, .tail _ (.tail _ (.head _)), rfl, .inl (by omega), hday⟩
      · split
        · next hweek =>
          exact .inl ⟨_, _, _, .tail _ (.tail _ (.tail _ (.head _))), rfl, .inl (by omega), hweek⟩
        · next hweek => exact .inr ⟨not_lt.1 hweek, rfl⟩

theorem le_div_mul_iff {total count seconds : Nat} (hseconds : 0 < seconds) :
    count ≤ total / (seconds * secondMicros) ↔ count * seconds * secondMicros ≤ total := by
  rw [Nat.le_div_iff_mul_le (Nat.mul_pos hseconds (by decide)), Nat.mul_assoc]

section Earlier

variable {start finish : DateTime} {total : Nat} (hzone : start.zone = finish.zone)
  (htotal : start.instant + (total : Int) = finish.instant)

include hzone htotal

/-- How often a unit of one length fits is told by dividing. -/
theorem fits_iff_le_div {seconds : Nat} {unit : TimeUnit} (hunit : unit.seconds? = some seconds)
    (hseconds : 0 < seconds) (count : Nat) :
    Fits start finish count unit ↔ count ≤ total / (seconds * secondMicros) := by
  rw [fits_iff_of_seconds? hzone hunit, le_div_mul_iff hseconds, ← htotal]
  omega

/-- A unit does not fit below its length; a month or a year is four weeks or more. -/
theorem not_fits_one_of_lt {unit : TimeUnit}
    (hshort : total < unit.seconds?.getD (28 * 86400) * secondMicros) :
    ¬ Fits start finish 1 unit := by
  have hnone : ∀ months, 0 < months → total < 28 * 86400 * secondMicros →
      ¬ start.afterMonths months ≤ finish.instant := by
    intro months hmonths hlt
    have hmonth := start.afterMonths_succ 0
    have hlater : start.afterMonths (0 + 1) ≤ _ := start.afterMonths_le hmonths
    rw [afterMonths_zero] at hmonth
    unfold dayMicros at hmonth
    unfold secondMicros at hlt
    omega
  cases unit with
  | month => exact fun h => hnone 1 (by decide) hshort ((fits_month_iff hzone).1 h)
  | year => exact fun h => hnone (12 * 1) (by decide) hshort ((fits_year_iff hzone).1 h)
  | _ =>
    rw [fits_iff_of_seconds? hzone rfl, ← htotal]
    simp only [TimeUnit.seconds?, Option.getD_some] at hshort
    omega

/-- A unit below a week is the largest that fits before the next one does. -/
theorem isLargest_of_mem_shortUnits {unit : TimeUnit} {seconds next : Nat}
    (hmem : (unit, seconds, next) ∈ shortUnits)
    (hpos : seconds * secondMicros ≤ total ∨ unit = .second) (hnext : total < next * secondMicros) :
    IsLargest start finish (total / (seconds * secondMicros)) unit := by
  obtain ⟨hunit, hseconds, habove⟩ := seconds?_of_mem_shortUnits _ hmem
  have hfits := fits_iff_le_div hzone htotal hunit hseconds
  refine ⟨(hfits _).2 le_rfl, fun h => Nat.not_succ_le_self _ ((hfits _).1 h), ?_, ?_⟩
  · intro larger hlarger
    refine not_fits_one_of_lt hzone htotal (lt_of_lt_of_le hnext ?_)
    exact Nat.mul_le_mul_right _ (habove larger hlarger)
  · refine hpos.imp_left fun hfirst => ?_
    rwa [le_div_mul_iff hseconds, Nat.one_mul]

/-- From a week on years go before months, and months before weeks. -/
theorem isLargest_calendarUnits (hweek : 604800 * secondMicros ≤ total) :
    IsLargest start finish
      (calendarUnits (total / (604800 * secondMicros)) (monthsBetween start finish)).1
      (calendarUnits (total / (604800 * secondMicros)) (monthsBetween start finish)).2 := by
  have hmonths {count : Nat} (hcount : 0 < count) := le_monthsBetween_iff_of_zone hzone hcount
  unfold calendarUnits
  split
  · next hyear =>
    refine ⟨?_, ?_, fun _ h => (List.not_mem_nil h).elim, .inl (by dsimp only; omega)⟩
    · rw [fits_year_iff hzone, ← hmonths (by omega)]
      omega
    · rw [fits_year_iff hzone, ← hmonths (by omega)]
      omega
  · split
    · next hyear hmonth =>
      refine ⟨?_, ?_, ?_, .inl hmonth⟩
      · rw [fits_month_iff hzone, ← hmonths hmonth]
      · rw [fits_month_iff hzone, ← hmonths (by omega)]
        omega
      · intro larger hlarger
        obtain rfl := List.mem_singleton.1 hlarger
        rwa [fits_year_iff hzone, ← hmonths (by decide)]
    · next hyear hmonth =>
      have hseconds : TimeUnit.week.seconds? = some 604800 := rfl
      have hfits := fits_iff_le_div hzone htotal hseconds (by decide)
      refine ⟨(hfits _).2 le_rfl, fun h => Nat.not_succ_le_self _ ((hfits _).1 h), ?_, .inl ?_⟩
      · intro larger hlarger
        have hcases : larger = .month ∨ larger = .year := by
          simpa [TimeUnit.above, TimeUnit.all] using hlarger
        obtain rfl | rfl := hcases
        · rwa [fits_month_iff hzone, ← hmonths (by decide)]
        · rwa [fits_year_iff hzone, ← hmonths (by decide)]
      · rwa [le_div_mul_iff (by decide), Nat.one_mul]

/-- The distance to a later moment is the largest unit that fits. -/
theorem isLargest_distance :
    IsLargest start finish (start.distance finish).1 (start.distance finish).2 := by
  obtain ⟨unit, seconds, next, hmem, hdistance, hpos, hnext⟩ | ⟨hweek, hdistance⟩ :=
    distance_cases htotal
  · rw [hdistance]
    exact isLargest_of_mem_shortUnits hzone htotal hmem hpos hnext
  · rw [hdistance]
    exact isLargest_calendarUnits hzone htotal hweek

end Earlier

theorem distance?_of_local {a b : DateTime} (ha : a.zone = none) (hb : b.zone = none) :
    a.distance? b = .ok (a.distance b) := by
  unfold distance? offset?
  rw [ha, hb]
  rfl

/-- Two local moments have a distance, the same in both directions: it names the largest unit that
    fits from the earlier to the later one, and how often it fits. -/
theorem distance?_isLargest (start finish : DateTime) (hstart : start.zone = none)
    (hfinish : finish.zone = none) (hle : start.wall ≤ finish.wall) :
    ∃ count unit, start.distance? finish = .ok (count, unit) ∧
      finish.distance? start = .ok (count, unit) ∧ IsLargest start finish count unit := by
  have hzone : start.zone = finish.zone := hstart.trans hfinish.symm
  have hoffset := offsetMicros_congr hzone
  have htotal : start.instant + ((finish.instant - start.instant).toNat : Int) =
      finish.instant := by
    rw [instant_eq, instant_eq]
    omega
  refine ⟨(start.distance finish).1, (start.distance finish).2,
    distance?_of_local hstart hfinish, ?_, isLargest_distance hzone htotal⟩
  rw [distance?_of_local hfinish hstart, distance_comm]

/-- The last of January of a leap year. -/
def lastOfJanuary : DateTime := ⟨⟨2020, 1, 31, by decide⟩, .midnight, none⟩

def leapDay : DateTime := ⟨⟨2020, 2, 29, by decide⟩, .midnight, none⟩

/-- From the last of January to the last of February is a month. -/
theorem distance?_isLargest_leapDay :
    lastOfJanuary.zone = none ∧ leapDay.zone = none ∧ lastOfJanuary.wall ≤ leapDay.wall ∧
      lastOfJanuary.distance? leapDay = .ok (1, .month) ∧
      IsLargest lastOfJanuary leapDay 1 .month := by
  have hle : lastOfJanuary.wall ≤ leapDay.wall := by decide
  have hdistance : lastOfJanuary.distance? leapDay = .ok (1, .month) := by decide +kernel
  obtain ⟨count, unit, hok, -, hlargest⟩ := distance?_isLargest _ _ rfl rfl hle
  obtain ⟨rfl, rfl⟩ : count = 1 ∧ unit = .month := by simpa [hdistance, eq_comm] using hok
  exact ⟨rfl, rfl, hle, hdistance, hlargest⟩

end DateTime
end RecordTemplate.Calendar
