/-
  RecordTemplate.Proofs.Calendar.Instants

  What the distance of two moments takes from them besides their instants.  Below a week it takes
  nothing.  From a week on months are counted on the calendars of the two zones, so the same two
  instants in other zones are as far apart exactly when these calendars agree on the months that
  have passed (`DateTime.distance_eq_iff`).
-/

import RecordTemplate.Proofs.Calendar.LargestUnit
import RecordTemplate.Proofs.Calendar.Limits

namespace RecordTemplate.Calendar.DateTime

/-! ## Months that have passed -/

/-- The earlier of two moments, the first if they are at one instant. -/
def earlier (a b : DateTime) : DateTime := if b.instant < a.instant then b else a

/-- The later of two moments, the second if they are at one instant. -/
def later (a b : DateTime) : DateTime := if b.instant < a.instant then a else b

/-- A number of months has passed from one moment to a later one: the months that their calendars
    show are so far apart, and going forward on the first calendar does not pass the second
    instant. -/
def MonthsPassed (start finish : DateTime) (months : Nat) : Prop :=
  start.date.monthNumber + months ≤ finish.date.monthNumber ∧
    start.afterMonths months ≤ finish.instant

/-- Numbers of months that the answer tells apart: each up to a year, whole years after that. -/
def IsCounted (months : Nat) : Prop := 0 < months ∧ (months ≤ 12 ∨ 12 ∣ months)

/-- The same numbers of months have passed between two moments as between two others. -/
def SameMonths (a b a' b' : DateTime) : Prop :=
  ∀ months, IsCounted months →
    (MonthsPassed (earlier a' b') (later a' b') months ↔
      MonthsPassed (earlier a b) (later a b) months)

/-- Two moments are less than a week apart. -/
def WithinWeek (a b : DateTime) : Prop :=
  (a.instant - b.instant).natAbs < 604800 * secondMicros

/-! ## The distance -/

theorem calendarUnits_eq_iff (weeks : Nat) {months months' : Nat} :
    calendarUnits weeks months' = calendarUnits weeks months ↔
      ∀ k, IsCounted k → (k ≤ months' ↔ k ≤ months) := by
  constructor
  · rintro h k ⟨-, hk⟩
    have hsame : months' = months ∨
        12 ≤ months' ∧ 12 ≤ months ∧ months' / 12 = months / 12 := by
      unfold calendarUnits at h
      split_ifs at h <;> simp_all
    obtain rfl | ⟨hlong', hlong, hyears⟩ := hsame
    · rfl
    · obtain hk | ⟨years, rfl⟩ := hk <;> omega
  · intro h
    have hyear := h 12 ⟨by decide, .inl (by decide)⟩
    unfold calendarUnits
    by_cases hlong : 12 ≤ months
    · -- both are years, and of each the whole years are counted
      have hlong' := hyear.2 hlong
      have hle := h (12 * (months / 12)) ⟨by omega, .inr (Nat.dvd_mul_right _ _)⟩
      have hle' := h (12 * (months' / 12)) ⟨by omega, .inr (Nat.dvd_mul_right _ _)⟩
      have hyears : months' / 12 = months / 12 := by omega
      rw [if_pos hlong, if_pos hlong', hyears]
    · have hshort' := mt hyear.1 hlong
      have hmonths : months' = months := by
        obtain rfl | hpos := Nat.eq_zero_or_pos months
        · obtain rfl | hpos' := Nat.eq_zero_or_pos months'
          · rfl
          · exact Nat.le_zero.1 ((h months' ⟨hpos', .inl (by omega)⟩).1 le_rfl)
        · have hle := (h months ⟨hpos, .inl (by omega)⟩).2 le_rfl
          exact le_antisymm ((h months' ⟨by omega, .inl (by omega)⟩).1 le_rfl) hle
      rw [hmonths]

/-- From a week on the calendar decides. -/
theorem distance_of_not_withinWeek {a b : DateTime} (h : ¬ WithinWeek a b) :
    a.distance b =
      calendarUnits ((a.instant - b.instant).natAbs / (604800 * secondMicros))
        (monthsBetween (earlier a b) (later a b)) := by
  have hshort : ∀ p ∈ shortUnits, p.2.2 ≤ 604800 := by decide
  have hsorted : a.distance b = (earlier a b).distance (later a b) ∧
      (earlier a b).instant + ((a.instant - b.instant).natAbs : Int) = (later a b).instant := by
    unfold earlier later
    split
    · exact ⟨distance_comm a b, by omega⟩
    · exact ⟨rfl, by omega⟩
  obtain ⟨unit, seconds, next, hmem, -, -, hnext⟩ | ⟨-, hdistance⟩ := distance_cases hsorted.2
  · -- no unit below a week is so long
    have hle : next ≤ 604800 := hshort _ hmem
    unfold WithinWeek secondMicros at h
    unfold secondMicros at hnext
    omega
  · exact hsorted.1.trans hdistance

section SameInstants

variable {a b a' b' : DateTime} (ha : a'.instant = a.instant) (hb : b'.instant = b.instant)

include ha hb

/-- The same instants are as far apart exactly when they are less than a week apart or the same
    months have passed between them on the calendars that show them. -/
theorem distance_eq_iff :
    a'.distance b' = a.distance b ↔ WithinWeek a b ∨ SameMonths a b a' b' := by
  by_cases hweek : WithinWeek a b
  · refine iff_of_true ?_ (.inl hweek)
    unfold distance
    simp only [ha, hb, if_pos (show _ < _ from hweek)]
  · have hweek' : ¬ WithinWeek a' b' := by
      unfold WithinWeek
      rwa [ha, hb]
    have hpassed {months : Nat} (hmonths : IsCounted months) (start finish : DateTime) :=
      le_monthsBetween_iff start finish hmonths.1
    rw [distance_of_not_withinWeek hweek, distance_of_not_withinWeek hweek', ha, hb,
      calendarUnits_eq_iff, or_iff_right hweek]
    refine forall_congr' fun months => forall_congr' fun hmonths => ?_
    rw [hpassed hmonths, hpassed hmonths]
    rfl

end SameInstants

/-! ## Aware moments -/

/-- A moment with a zone whose distance from UTC can be asked for. -/
def IsAware (t : DateTime) : Prop := ∃ offset, t.offset? = .ok (some offset)

theorem asUtc_of_isAware {t : DateTime} (h : t.IsAware) : t.asUtc = t := by
  obtain ⟨offset, hoffset⟩ := h
  unfold offset? at hoffset
  unfold asUtc
  cases hzone : t.zone with
  | none => simp [hzone] at hoffset
  | some z => rfl

theorem distance?_of_isAware {a b : DateTime} (ha : a.IsAware) (hb : b.IsAware) :
    a.distance? b = .ok (a.distance b) := by
  obtain ⟨offset, hoffset⟩ := ha
  obtain ⟨offset', hoffset'⟩ := hb
  unfold distance?
  rw [hoffset, hoffset']
  rfl

end RecordTemplate.Calendar.DateTime
