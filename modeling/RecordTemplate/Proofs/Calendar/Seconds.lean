/-
  RecordTemplate.Proofs.Calendar.Seconds

  Moments counted in whole seconds since the epoch.  The count is exact in double precision as far
  as the calendar reaches, so a moment is written with its seconds (`DateTime.unixSeconds_eq`) and
  a number of seconds up to the limit for milliseconds is read as the moment at UTC
  (`DateTime.ofTimestamp_whole`).
-/

import RecordTemplate.Calendar.Format
import RecordTemplate.Proofs.Calendar.Limits
import RecordTemplate.Proofs.Calendar.Months
import RecordTemplate.Proofs.Number.Exact

namespace RecordTemplate.Calendar

open RecordTemplate.Number

/-! ## Numbers of seconds -/

theorem isExactly_millisecondLimit : millisecondLimit.IsExactly false (10 ^ 11) :=
  Binary64.isExactly_ofRatio false (by decide)

/-- A whole number of seconds has no microseconds. -/
theorem wholeAndMicros_whole {m n : Nat} {e : Int}
    (h : (Binary64.ratio m e).1 = n * (Binary64.ratio m e).2) : wholeAndMicros m e = (n, 0) := by
  have hpos := Binary64.ratio_pos m e
  have hzero : Binary64.ofRatio false 0 (Binary64.ratio m e).2 =
      .finite false 0 Binary64.minExponent := if_pos rfl
  have hround : ∀ e', roundDiv .toEven (Binary64.ratio 0 e').1 (Binary64.ratio 0 e').2 = 0 := by
    intro e'
    have hnone : (Binary64.ratio 0 e').1 = 0 := Nat.zero_mul _
    refine roundDiv_eq_zero .toEven ?_
    rw [hnone]
    exact Binary64.ratio_pos 0 e'
  unfold wholeAndMicros
  dsimp only
  rw [h, Nat.mul_mod_left, Nat.mul_div_cancel _ hpos, hzero, Binary64.mulNat_zero]
  exact congrArg _ (hround _)

namespace DateTime

/-- An instant within the calendar is read. -/
theorem ofMicros_ok {micros : Int} (hfirst : firstWall ≤ micros + epoch)
    (hlast : micros + epoch < endWall) :
    ∃ t, ofMicros micros = .ok t ∧ t.zone = some .utc ∧ t.instant = micros + epoch := by
  obtain ⟨t, ht⟩ := ofWall?_of_bounds hfirst hlast (some .utc)
  obtain ⟨hwall, hzone⟩ := wall_of_ofWall? ht
  refine ⟨t, ?_, hzone, ?_⟩
  · have hepoch : epoch = 62135683200000000 := by decide
    have hpow : Int.pow 2 63 = 9223372036854775808 ∧ Int.pow 2 31 = 2147483648 := by decide
    have hfdiv : ∀ a b : Int, 0 ≤ b → a.fdiv b = a / b := Int.fdiv_eq_ediv_of_nonneg
    have hyear := yearOfDay_bounds ((micros + epoch) / dayMicros - 1)
    unfold firstWall at hfirst
    unfold ofMicros
    dsimp only
    have hlength : endWall = 315537984000000000 := by decide
    have hday : dayMicros = 86400000000 := rfl
    -- the calendar lies far inside what the clock of the system can tell
    have hseconds : ¬ (micros / 1000000 < -Int.pow 2 63 ∨ Int.pow 2 63 ≤ micros / 1000000) := by
      omega
    have hyears : ¬ (yearOfDay ((micros + epoch) / dayMicros - 1) - 1900 < -Int.pow 2 31 ∨
        Int.pow 2 31 ≤ yearOfDay ((micros + epoch) / dayMicros - 1) - 1900) := by
      rw [hday] at hyear ⊢
      omega
    rw [hfdiv _ _ (by decide), hfdiv _ _ (by decide), if_neg hseconds, if_neg hyears, ht]
  · unfold instant
    rw [hwall, hzone]
    exact Int.sub_zero _

/-- A whole number of seconds up to the limit is read as the moment at UTC. -/
theorem ofTimestamp_whole {x : Binary64} {negative : Bool} {n : Nat}
    (hx : x.IsExactly negative n) (hlimit : Binary64.signed negative n ≤ 10 ^ 11)
    (hfirst : firstWall ≤ Binary64.signed negative n * 1000000 + epoch) :
    ∃ t, ofTimestamp x = .ok t ∧ t.zone = some .utc ∧
      t.instant = Binary64.signed negative n * 1000000 + epoch := by
  have hseconds : ¬ millisecondLimit.lt x = true := by
    rw [isExactly_millisecondLimit.lt_iff hx]
    exact not_lt.2 hlimit
  have hsigned : Binary64.signed negative (n * 1000000 + 0) =
      Binary64.signed negative n * 1000000 := by
    rw [Nat.add_zero, Binary64.signed_mul, Nat.cast_ofNat]
  obtain ⟨m, e, rfl, hratio⟩ := hx
  unfold ofTimestamp
  rw [if_neg hseconds]
  dsimp only
  rw [wholeAndMicros_whole hratio]
  dsimp only
  rw [hsigned]
  refine ofMicros_ok hfirst ?_
  have hepoch : epoch = 62135683200000000 := by decide
  have hlength : endWall = 315537984000000000 := by decide
  omega

/-- A moment without a fraction of a second, whole seconds away from UTC, is whole seconds away
    from the epoch. -/
theorem exists_seconds {t : DateTime} (hmicros : t.time.microsecond = 0)
    (hwhole : 1000000 ∣ t.offsetMicros) : ∃ seconds, t.instant = seconds * 1000000 + epoch := by
  have hepoch : epoch = 62135683200000000 := by decide
  obtain ⟨offset, hoffset⟩ := hwhole
  refine ⟨t.date.ordinal * 86400 + ((t.time.hour * 60 + t.time.minute) * 60 + t.time.second) -
    offset - 62135683200, ?_⟩
  rw [instant_eq, wall, Time.micros, hmicros, hoffset, hepoch, dayMicros]
  push_cast
  ring

/-- The whole seconds since the epoch of a moment that has no fraction of a second. -/
theorem unixSeconds_eq {t : DateTime} {offset : Option Int} {seconds : Int}
    (hoffset : t.offset? = .ok offset) (hinstant : t.instant = seconds * 1000000 + epoch)
    (hrange : seconds.natAbs < 2 ^ 53) : t.unixSeconds = .ok seconds := by
  have hmicros : t.instant - epoch = seconds * 1000000 := by omega
  have habs : (seconds * 1000000).natAbs = seconds.natAbs * 1000000 := Int.natAbs_mul _ _
  obtain ⟨m, e, hfinite, hratio⟩ := Binary64.isExactly_ofRatio_mul
    (decide (seconds * 1000000 < 0)) (d := 1000000) (by decide) hrange
  unfold unixSeconds
  rw [hoffset]
  simp only [bind, Except.bind, hmicros, habs, hfinite]
  have hsign : (seconds * 1000000 < 0) ↔ seconds < 0 := by omega
  rw [Binary64.IsExactly.truncate_eq hratio, decide_eq_decide.2 hsign, Binary64.signed_natAbs]
  rfl

end DateTime
end RecordTemplate.Calendar
