/-
  RecordTemplate.Proofs.Calendar.Months

  Months counted through from the beginning of the calendar.  A day of the month, cut back to the
  length of the month, moves by four weeks or more from one month to the next
  (`ordinalInMonth_succ`), so the moments some months after a given one are in order, and the
  months between two moments are the most that the months' numbers and the instants allow
  (`DateTime.le_monthsBetween_iff`).
-/

import RecordTemplate.Calendar.Distance
import RecordTemplate.Proofs.Calendar.Ordinals

namespace RecordTemplate.Calendar

/-! ## Numbers of months -/

/-- The number of days before the month of a number, which counts twelve months a year. -/
def daysBeforeNumber (number : Nat) : Nat :=
  daysBeforeYear (number / 12) + daysBeforeMonth (number / 12) (number % 12 + 1)

def daysOfNumber (number : Nat) : Nat := daysInMonth (number / 12) (number % 12 + 1)

theorem daysBeforeNumber_succ {number : Nat} (h : 12 ≤ number) :
    daysBeforeNumber (number + 1) = daysBeforeNumber number + daysOfNumber number := by
  have hmonth := daysBeforeMonth_succ (number / 12) (Nat.le_add_left 1 (number % 12))
  unfold daysBeforeNumber daysOfNumber
  by_cases hlast : number % 12 = 11
  · -- after December the year changes
    have hyear : (number + 1) / 12 = number / 12 + 1 := by omega
    have hjanuary : (number + 1) % 12 = 0 := by omega
    have hlength := daysBeforeMonth_thirteen (number / 12)
    have hnone : daysBeforeMonth (number / 12 + 1) (0 + 1) = 0 := rfl
    rw [hlast] at hmonth ⊢
    rw [hyear, hjanuary, hnone, daysBeforeYear_succ (by omega), ← hlength, hmonth]
    omega
  · have hyear : (number + 1) / 12 = number / 12 := by omega
    have hnext : (number + 1) % 12 = number % 12 + 1 := by omega
    rw [hyear, hnext, hmonth]
    omega

theorem daysBeforeNumber_le {number number' : Nat} (hfirst : 12 ≤ number)
    (h : number ≤ number') : daysBeforeNumber number ≤ daysBeforeNumber number' := by
  induction h with
  | refl => exact Nat.le_refl _
  | @step m h ih =>
    rw [Nat.succ_eq_add_one, daysBeforeNumber_succ (Nat.le_trans hfirst h)]
    omega

/-- The ordinal of a day of the month of a number, cut back to the length of the month. -/
def ordinalInMonth (number day : Nat) : Nat :=
  daysBeforeNumber number + min day (daysOfNumber number)

/-- The same day of the next month is four weeks later or more. -/
theorem ordinalInMonth_succ {number : Nat} (h : 12 ≤ number) (day : Nat) :
    ordinalInMonth number day + 28 ≤ ordinalInMonth (number + 1) day := by
  have hlength := daysInMonth_bounds (number / 12) (number % 12 + 1)
  have hlength' := daysInMonth_bounds ((number + 1) / 12) ((number + 1) % 12 + 1)
  have hnext := daysBeforeNumber_succ h
  unfold ordinalInMonth
  unfold daysOfNumber at hnext ⊢
  omega

namespace Date

/-- The number of the month of a date. -/
def monthNumber (d : Date) : Nat := d.year * 12 + (d.month - 1)

theorem monthNumber_spec (d : Date) :
    d.monthNumber / 12 = d.year ∧ d.monthNumber % 12 + 1 = d.month ∧ 12 ≤ d.monthNumber := by
  obtain ⟨hyear, -, hmonth, hmonth', -⟩ := d.isDay
  unfold minYear at hyear
  unfold monthNumber
  omega

theorem ordinal_eq (d : Date) : d.ordinal = ordinalInMonth d.monthNumber d.day := by
  obtain ⟨hyear, hmonth, -⟩ := d.monthNumber_spec
  have hday := d.isDay.2.2.2.2.2
  unfold ordinalInMonth daysBeforeNumber daysOfNumber ordinal ordinalOf
  rw [hyear, hmonth, Nat.min_eq_left hday]

/-- The days of a later month are later. -/
theorem ordinal_lt_ordinalInMonth (d : Date) {number day : Nat} (h : d.monthNumber < number)
    (hday : 1 ≤ day) : d.ordinal < ordinalInMonth number day := by
  have hfirst := d.monthNumber_spec.2.2
  have hend := daysBeforeNumber_succ hfirst
  have hbefore : daysBeforeNumber (d.monthNumber + 1) ≤ daysBeforeNumber number :=
    daysBeforeNumber_le (by omega) h
  have hlength := daysInMonth_bounds (number / 12) (number % 12 + 1)
  rw [d.ordinal_eq]
  unfold ordinalInMonth daysOfNumber at *
  omega

end Date

/-! ## Moments some months later -/

namespace DateTime

theorem wallAfterMonths_eq (t : DateTime) (months : Nat) : t.wallAfterMonths months =
    (ordinalInMonth (t.date.monthNumber + months) t.date.day : Int) * dayMicros +
      t.time.micros :=
  rfl

theorem instant_eq (t : DateTime) : t.instant = t.wall - t.offsetMicros := rfl

theorem afterMonths_zero (t : DateTime) : t.afterMonths 0 = t.instant := by
  rw [afterMonths, wallAfterMonths_eq, Nat.add_zero, ← t.date.ordinal_eq]
  rfl

/-- A month is four weeks or more. -/
theorem afterMonths_succ (t : DateTime) (months : Nat) :
    t.afterMonths months + 28 * dayMicros ≤ t.afterMonths (months + 1) := by
  have hfirst := t.date.monthNumber_spec.2.2
  have hstep := ordinalInMonth_succ (Nat.le_add_right_of_le (k := months) hfirst) t.date.day
  rw [Nat.add_assoc] at hstep
  unfold afterMonths dayMicros
  rw [wallAfterMonths_eq, wallAfterMonths_eq, dayMicros]
  omega

/-- More months later is not earlier. -/
theorem afterMonths_le (t : DateTime) {months months' : Nat} (h : months ≤ months') :
    t.afterMonths months ≤ t.afterMonths months' := by
  have hday : dayMicros = 86400000000 := rfl
  induction h with
  | refl => exact Int.le_refl _
  | @step months' _ ih =>
    have hlater : _ ≤ t.afterMonths months'.succ := t.afterMonths_succ months'
    omega

/-- The search from above finds the most months up to a bound. -/
theorem le_monthsUntil_iff (start : DateTime) (finish : Int) {bound k : Nat} (hk : 0 < k) :
    k ≤ monthsUntil start finish bound ↔ k ≤ bound ∧ start.afterMonths k ≤ finish := by
  induction bound with
  | zero =>
    unfold monthsUntil
    omega
  | succ bound ih =>
    unfold monthsUntil
    split
    · next hfits =>
      refine ⟨fun h => ⟨h, ?_⟩, And.left⟩
      exact Int.le_trans (start.afterMonths_le h) hfits
    · next hlate =>
      rw [ih]
      refine ⟨fun h => ⟨Nat.le_succ_of_le h.1, h.2⟩, fun h => ⟨?_, h.2⟩⟩
      obtain hlt | rfl := Nat.lt_or_eq_of_le h.1
      · exact Nat.le_of_lt_succ hlt
      · exact absurd h.2 hlate

/-- As many months lie between two moments as the numbers of their months allow and have passed
    by the second instant. -/
theorem le_monthsBetween_iff (start finish : DateTime) {k : Nat} (hk : 0 < k) :
    k ≤ monthsBetween start finish ↔
      start.date.monthNumber + k ≤ finish.date.monthNumber ∧
        start.afterMonths k ≤ finish.instant := by
  have hstart := start.date.isDay.2.2.1
  have hfinish := finish.date.isDay.2.2.1
  rw [monthsBetween, le_monthsUntil_iff _ _ hk]
  unfold Date.monthNumber
  refine and_congr_left fun _ => ?_
  omega

end DateTime
end RecordTemplate.Calendar
