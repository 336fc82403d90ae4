/-
  RecordTemplate.Proofs.Filter.RelativeDate

  The words of a distance in time.  They tell the count and the unit
  (`distanceWords_injective`), so the filter prints the same for two instants shown in other zones
  exactly when the distance is the same, and that is decided by the calendars of the zones
  (`relativeDate_eq_iff`).
-/

import Mathlib.Data.List.Nodup
import RecordTemplate.Filter.Date
import RecordTemplate.Proofs.Calendar.Instants
import RecordTemplate.Proofs.Number.Denoted

namespace RecordTemplate

open RecordTemplate.Calendar RecordTemplate.Number RecordTemplate.Text

/-! ## Words -/

namespace Calendar.Locale

theorem mem_timeUnits (unit : TimeUnit) : unit ∈ TimeUnit.all := by
  cases unit <;> decide

/-- No two units have a form in common. -/
theorem unitForms_injective (l : Locale) (unit unit' : TimeUnit) :
    ((l.unitForms unit).one = (l.unitForms unit').one → unit = unit') ∧
      ((l.unitForms unit).few = (l.unitForms unit').few → unit = unit') ∧
      ((l.unitForms unit).many = (l.unitForms unit').many → unit = unit') := by
  have hinjective : ∀ form : NounForms → String,
      (TimeUnit.all.map fun u => form (l.unitForms u)).Nodup →
        form (l.unitForms unit) = form (l.unitForms unit') → unit = unit' :=
    fun form hnodup h =>
      List.inj_on_of_nodup_map hnodup (mem_timeUnits unit) (mem_timeUnits unit') h
  refine ⟨hinjective NounForms.one ?_, hinjective NounForms.few ?_, hinjective NounForms.many ?_⟩
  all_goals cases l <;> simp [TimeUnit.all, unitForms]

/-- After one count, the names of two units differ. -/
theorem unitName_injective (l : Locale) {count : Int} {unit unit' : TimeUnit}
    (h : l.unitName unit count = l.unitName unit' count) : unit = unit' := by
  obtain ⟨hone, hfew, hmany⟩ := l.unitForms_injective unit unit'
  unfold unitName at h
  dsimp only at h
  split_ifs at h
  · exact hone h
  · exact hfew h
  · exact hmany h
  · exact hfew h

end Calendar.Locale

namespace Filter

/-- A distance in words. -/
def distanceWords (l : Calendar.Locale) (distance : Nat × TimeUnit) : String :=
  natText distance.1 ++ " " ++ l.unitName distance.2 distance.1

/-- The words tell the count and the unit. -/
theorem distanceWords_injective (l : Calendar.Locale) : Function.Injective (distanceWords l) := by
  rintro ⟨count, unit⟩ ⟨count', unit'⟩ h
  have hlist : ∀ n u,
      (distanceWords l (n, u)).toList = digits n ++ ' ' :: (l.unitName u n).toList := by
    intro n u
    simp [distanceWords, natText]
  have hspace : ∀ n, ' ' ∉ digits n := by
    intro n hmem
    exact absurd ((isNumeral_digits n).digits ' ' hmem) (by decide)
  have htext := congrArg String.toList h
  rw [hlist, hlist] at htext
  -- the count is what stands before the space
  obtain ⟨hcount, hname⟩ := eq_of_append_cons (hspace count) (hspace count') htext
  obtain rfl : count = count' := by
    rw [← (isNumeral_digits count).value, hcount, (isNumeral_digits count').value]
  obtain rfl := l.unitName_injective (String.toList_inj.1 hname)
  rfl

/-! ## The filter -/

theorem relativePhrase_of_isAware {now t : DateTime} (hnow : now.IsAware) (ht : t.IsAware)
    (l : Calendar.Locale) : relativePhrase now l t =
      .ok (if t.instant ≤ now.instant then l.ago (distanceWords l (now.distance t))
        else l.ahead (distanceWords l (now.distance t))) := by
  unfold relativePhrase
  rw [DateTime.asUtc_of_isAware hnow, DateTime.asUtc_of_isAware ht]
  simp only [DateTime.distance?_of_isAware hnow ht]
  rfl

/-- The words are the same exactly when the distance is. -/
theorem relativePhrase_eq_iff {now now' t t' : DateTime} (hnow : now.IsAware)
    (hnow' : now'.IsAware) (ht : t.IsAware) (ht' : t'.IsAware) (l : Calendar.Locale)
    (hinstant : now'.instant = now.instant) (hinstant' : t'.instant = t.instant) :
    relativePhrase now' l t' = relativePhrase now l t ↔ now'.distance t' = now.distance t := by
  have hwords : ∀ s s' : String, l.ago s = l.ago s' ∨ l.ahead s = l.ahead s' → s = s' := by
    intro s s' h
    cases l <;> simpa [Calendar.Locale.ago, Calendar.Locale.ahead] using h
  rw [relativePhrase_of_isAware hnow ht, relativePhrase_of_isAware hnow' ht', hinstant, hinstant']
  constructor
  · intro h
    refine distanceWords_injective l (hwords _ _ ?_)
    split at h
    · exact .inl (Except.ok.inj h)
    · exact .inr (Except.ok.inj h)
  · intro h
    rw [h]

/-- The filter prints the words, or fails as the distance does, for a value that has a moment. -/
theorem relativeDate_of_readMoment {context : FilterContext} {v : Value} {t : DateTime}
    (hread : v.readMoment context.now.date = .ok t) (args : List String) :
    relativeDate.apply context v args =
      (relativePhrase context.now
        (Calendar.Locale.ofName (filledArgument args 0 context.locale)) t).map .text := by
  dsimp only [relativeDate, onMoment]
  rw [hread]

theorem map_text_inj {x y : Except Failure String} :
    x.map Value.text = y.map Value.text ↔ x = y := by
  cases x <;> cases y <;> simp [Except.map]

/-- Two instants shown in other zones are as far apart, and the filter prints the same, exactly
    when they are less than a week apart or the same months have passed between them on the
    calendars of the zones. -/
theorem relativeDate_eq_iff {context : FilterContext} {v v' : Value} {now' t t' : DateTime}
    (hread : v.readMoment context.now.date = .ok t) (hread' : v'.readMoment now'.date = .ok t')
    (hnow : context.now.IsAware) (hnow' : now'.IsAware) (ht : t.IsAware) (ht' : t'.IsAware)
    (hinstant : now'.instant = context.now.instant) (hinstant' : t'.instant = t.instant) :
    (now'.distance? t' = context.now.distance? t ↔
        DateTime.WithinWeek context.now t ∨ DateTime.SameMonths context.now t now' t') ∧
      ∀ args, (relativeDate.apply { context with now := now' } v' args =
          relativeDate.apply context v args ↔
        DateTime.WithinWeek context.now t ∨ DateTime.SameMonths context.now t now' t') := by
  have hdistance := DateTime.distance_eq_iff hinstant hinstant'
  refine ⟨?_, fun args => ?_⟩
  · rw [DateTime.distance?_of_isAware hnow ht, DateTime.distance?_of_isAware hnow' ht',
      Except.ok.injEq, hdistance]
  · have hphrase := relativePhrase_eq_iff hnow hnow' ht ht'
      (Calendar.Locale.ofName (filledArgument args 0 context.locale)) hinstant hinstant'
    have hread'' : v'.readMoment { context with now := now' }.now.date = .ok t' := hread'
    rw [relativeDate_of_readMoment hread, relativeDate_of_readMoment hread'', map_text_inj]
    exact hphrase.trans hdistance

/-- The last hour of January one hour behind UTC. -/
def lastHour : DateTime :=
  ⟨⟨2024, 1, 31, by decide⟩, ⟨23, 0, 0, 0, by decide⟩, some (Zone.fixed (-3600000000))⟩

/-- The same instant at UTC. -/
def firstHour : DateTime := ⟨⟨2024, 2, 1, by decide⟩, .midnight, some .utc⟩

/-- Midnight of a day of January at UTC. -/
def inJanuary (day : Nat) (h : IsDay 2024 1 day) : DateTime :=
  ⟨⟨2024, 1, day, h⟩, .midnight, some .utc⟩

/-- Two days ago in either zone. -/
theorem relativeDate_eq_iff_days :
    Value.readMoment lastHour.date (.dateTime (inJanuary 30 (by decide))) =
        .ok (inJanuary 30 (by decide)) ∧
      lastHour.IsAware ∧ firstHour.IsAware ∧ (inJanuary 30 (by decide)).IsAware ∧
      firstHour.instant = lastHour.instant ∧
      firstHour.distance? (inJanuary 30 (by decide)) =
        lastHour.distance? (inJanuary 30 (by decide)) ∧
      relativeDate.apply { now := firstHour } (.dateTime (inJanuary 30 (by decide))) ["pl"] =
        relativeDate.apply { now := lastHour } (.dateTime (inJanuary 30 (by decide))) ["pl"] := by
  have hlast : lastHour.IsAware := ⟨-3600000000, by decide⟩
  have hfirst : firstHour.IsAware := ⟨0, by decide⟩
  have ht : (inJanuary 30 (by decide)).IsAware := ⟨0, by decide⟩
  have hinstant : firstHour.instant = lastHour.instant := by decide
  have hweek : DateTime.WithinWeek lastHour (inJanuary 30 (by decide)) := by
    unfold DateTime.WithinWeek
    decide
  have hread (today : Date) : Value.readMoment today (.dateTime (inJanuary 30 (by decide))) =
      .ok (inJanuary 30 (by decide)) := rfl
  obtain ⟨hdistance, hphrase⟩ := @relativeDate_eq_iff { now := lastHour }
    _ _ firstHour _ _ (hread _) (hread _) hlast hfirst ht ht hinstant rfl
  exact ⟨rfl, hlast, hfirst, ht, hinstant, hdistance.2 (.inl hweek),
    (hphrase ["pl"]).2 (.inl hweek)⟩

/-- The instants alone do not decide: the first of January is four weeks ago where it is still
    January, and a month ago where it is February. -/
theorem not_forall_relativeDate_eq :
    (¬ ∀ now now' t : DateTime, now.IsAware → now'.IsAware → t.IsAware →
        now'.instant = now.instant → now'.distance? t = now.distance? t) ∧
      ¬ ∀ (now now' t : DateTime) (args : List String), now.IsAware → now'.IsAware → t.IsAware →
        now'.instant = now.instant →
          relativeDate.apply { now := now' } (.dateTime t) args =
            relativeDate.apply { now := now } (.dateTime t) args := by
  have hlast : lastHour.IsAware := ⟨-3600000000, by decide⟩
  have hfirst : firstHour.IsAware := ⟨0, by decide⟩
  have ht : (inJanuary 1 (by decide)).IsAware := ⟨0, by decide⟩
  have hinstant : firstHour.instant = lastHour.instant := by decide
  have hdistance : lastHour.distance (inJanuary 1 (by decide)) = (4, .week) ∧
      firstHour.distance (inJanuary 1 (by decide)) = (1, .month) := by decide +kernel
  have hdiffer : firstHour.distance (inJanuary 1 (by decide)) ≠
      lastHour.distance (inJanuary 1 (by decide)) := by
    rw [hdistance.1, hdistance.2]
    decide
  constructor
  · intro h
    have heq := h _ _ _ hlast hfirst ht hinstant
    rw [DateTime.distance?_of_isAware hfirst ht, DateTime.distance?_of_isAware hlast ht] at heq
    exact hdiffer (Except.ok.inj heq)
  · intro h
    have heq := h _ _ _ [] hlast hfirst ht hinstant
    have hwords := map_text_inj.1 <|
      (relativeDate_of_readMoment rfl []).symm.trans (heq.trans (relativeDate_of_readMoment rfl []))
    exact hdiffer ((relativePhrase_eq_iff hlast hfirst ht ht _ hinstant rfl).1 hwords)

end Filter
end RecordTemplate
