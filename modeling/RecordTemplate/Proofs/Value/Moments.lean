/-
  RecordTemplate.Proofs.Value.Moments

  Moments that are written by a format and read again (`DateTime.reread_formats`).  The reader tries
  a number first: the seconds of a moment are one, and a date is none, for a hyphen stands behind
  its year.  Then it takes the text for ISO 8601 form, which is what the other formats write.
-/

import RecordTemplate.Proofs.Calendar.Seconds
import RecordTemplate.Proofs.Calendar.Written
import RecordTemplate.Proofs.Value.Formatted
import RecordTemplate.Proofs.Value.Reading

namespace RecordTemplate

open RecordTemplate.Calendar RecordTemplate.Number RecordTemplate.Text

/-! ## Numbers at the beginning of a text -/

namespace Number

/-- Digits behind a sign are one number, up to a character that no number goes on with. -/
theorem spanNumber?_digits (negative : Bool) {ds rest : List Char} (hds : IsDigits ds)
    (hne : ds ≠ []) (hrest : ∀ c, rest.head? = some c → isDecimal c = false ∧ c ∉ ['.', 'e', 'E']) :
    spanNumber? (Decimal.signText negative ++ (ds ++ rest)) =
      some (Decimal.signText negative ++ ds, rest) := by
  have hexponent : spanExponent rest = ([], rest) := by
    cases rest with
    | nil => rfl
    | cons c t =>
      have hc := (hrest c rfl).2
      refine if_neg ?_
      rintro (rfl | rfl) <;> exact hc (by decide)
  have hmantissa : spanMantissa? (ds ++ rest) = some (ds, rest) := by
    unfold spanMantissa?
    rw [spanDigits_append hds fun c hc => (hrest c hc).1]
    obtain ⟨d, ds, rfl⟩ := List.exists_cons_of_ne_nil hne
    cases rest with
    | nil => rfl
    | cons c t =>
      have hc : c ≠ '.' := by
        rintro rfl
        exact (hrest '.' rfl).2 (by decide)
      simp [hc]
  have hspan : ∀ {s : List Char}, (∀ c, s.head? = some c → isSpace c = false) →
      s.span isSpace = ([], s) := by
    intro s hs
    have htake := @takeWhile_span Char isSpace [] s (by simp) hs
    rw [List.span_eq_takeWhile_dropWhile, dropWhile_eq_self hs, ← htake]
    rfl
  have hhead : ∀ c, (ds ++ rest).head? = some c → isDecimal c = true := hds.head hne
  unfold spanNumber?
  cases negative with
  | true =>
    have hminus : (Decimal.signText true ++ (ds ++ rest)).span isSpace =
        ([], '-' :: (ds ++ rest)) := hspan (by rintro c ⟨⟩; decide)
    simp only [hminus, hmantissa, hexponent, Option.map_some]
    simp [Decimal.signText]
  | false =>
    -- the first digit is neither white space nor a sign
    have hnone : (Decimal.signText false ++ (ds ++ rest)).span isSpace = ([], ds ++ rest) :=
      hspan fun c hc => isSpace_of_isDecimal (hhead c hc)
    rw [hnone]
    split
    next blanks v hpair =>
    cases hpair
    split
    next sign u hsplit =>
    have hsign : sign = [] ∧ u = ds ++ rest := by
      split at hsplit
      · next t h => exact absurd rfl (ne_of_isDecimal (hhead '+' (by rw [h]; rfl))).1
      · next t h => exact absurd rfl (ne_of_isDecimal (hhead '-' (by rw [h]; rfl))).2
      · cases hsplit
        exact ⟨rfl, rfl⟩
    obtain ⟨rfl, rfl⟩ := hsign
    simp only [hmantissa, hexponent, Option.map_some]
    simp [Decimal.signText]

/-- The text of an integer is one number. -/
theorem intText_eq (n : Int) :
    intText n = Decimal.signText (decide (n < 0)) ++ digits n.natAbs := by
  unfold intText Decimal.signText
  by_cases h : n < 0 <;> simp [h]

theorem isNumeric_intText (n : Int) : isNumeric (intText n) = true := by
  have hnone : ∀ c, ([] : List Char).head? = some c →
      isDecimal c = false ∧ c ∉ ['.', 'e', 'E'] := by simp
  have hspan := spanNumber?_digits (decide (n < 0)) (isNumeral_digits n.natAbs).isDigits
    (digits_ne_nil _) hnone
  rw [List.append_nil, ← intText_eq] at hspan
  unfold isNumeric
  rw [hspan]
  rfl

/-- The text of an integer below two to the power 53 is read as this integer. -/
theorem readFloat?_intText {n : Int} (h : n.natAbs < 2 ^ 53) :
    ∃ x, readFloat? (intText n) = some x ∧ x.IsExactly (decide (n < 0)) n.natAbs := by
  have hdigits := isNumeral_digits n.natAbs
  have hread := @readFinite?_of_parts (decide (n < 0)) (digits n.natAbs) [] [] [] 0
    hdigits.isDigits (digits_ne_nil _) (by simp [IsDigits]) (.inl ⟨rfl, rfl⟩) rfl
  simp only [List.append_nil, hdigits.value, List.length_nil, ← intText_eq] at hread
  refine ⟨_, readFloat?_of_readFinite? ?_ hread, Binary64.isExactly_ofDecimal _ h⟩
  intro c hc
  rw [intText_eq] at hc
  obtain hc | hc := List.mem_append.1 hc
  · exact isNumberChar_of_mem_signText c hc
  · exact hdigits.isNumberChar c hc

end Number

/-! ## Reading -/

namespace Value

variable {today : Date} {s : List Char}

theorem readMoment_ofList (hne : s ≠ []) : (Value.text (String.ofList s)).readMoment today =
    (do
      match ← (Value.text (String.ofList s)).strictNumber? with
      | some x => DateTime.ofTimestamp x
      | none =>
        if trim s = [] then .error .blankDate
        else match momentOfText today (trim s) with
          | .ok t => return t
          | .error .unreadable => .error (.notADate (Value.text (String.ofList s)).display)
          | .error .divisionImpossible => .error .divisionImpossible) := by
  have hrender : (Value.text (String.ofList s)).render.toList = s := String.toList_ofList
  unfold readMoment
  split
  · cases ‹Value.text _ = _›
  · cases ‹Value.text _ = _›
  · cases ‹Value.text _ = _›
  · next h => exact absurd (String.ofList_injective (Value.text.inj h)) hne
  · generalize (Value.text (String.ofList s)).render.toList = rendered at hrender
    subst hrender
    rfl

/-- A text that is no number is read as a date. -/
theorem readMoment_of_text {t : DateTime} (hnumber : isNumeric s = false) (htrim : IsTrimmed s)
    (hne : s ≠ []) (hread : momentOfText today s = .ok t) :
    (Value.text (String.ofList s)).readMoment today = .ok t := by
  have hstrict : (Value.text (String.ofList s)).strictNumber? = .ok none := by
    simp [strictNumber?, toBinary64?, hnumber]
  have htrimmed : trim s = s := by
    have := @trim_padded [] s [] (by simp) (by simp) htrim
    rwa [List.nil_append, List.append_nil] at this
  rw [readMoment_ofList hne, hstrict, htrimmed, hread]
  exact if_neg hne

/-- A text that is a number is read as a number of seconds. -/
theorem readMoment_of_number {x : Binary64} (hnumber : isNumeric s = true)
    (hread : readFloat? s = some x) (hne : s ≠ []) :
    (Value.text (String.ofList s)).readMoment today = DateTime.ofTimestamp x := by
  have hstrict : (Value.text (String.ofList s)).strictNumber? = .ok (some x) := by
    simp [strictNumber?, toBinary64?, hnumber, hread]
  rw [readMoment_ofList hne, hstrict]
  rfl

end Value

/-! ## Moments in ISO 8601 form -/

namespace Calendar.DateTime

variable {t : DateTime} {separator : Char}

/-- A date is no number, for a hyphen stands behind its year. -/
theorem isNumeric_isoText (t : DateTime) (separator : Char) :
    isNumeric (t.isoText separator) = false := by
  obtain ⟨hyear, -, -⟩ := t.date.bounds
  have hne : padded 4 t.date.year ≠ [] :=
    List.ne_nil_of_length_pos (by rw [length_padded (by decide) hyear]; decide)
  have hspan : ∀ rest : List Char, spanNumber? (padded 4 t.date.year ++ '-' :: rest) =
      some (padded 4 t.date.year, '-' :: rest) := fun rest =>
    spanNumber?_digits false (isNumeral_padded 4 t.date.year).isDigits hne
      (by rintro c ⟨⟩; decide)
  rw [isoText_eq, Date.isoText_append, isNumeric, hspan]
  rfl

theorem isTrimmed_isoText (h : t.IsPlain) : IsTrimmed (t.isoText separator) where
  first := by
    intro c hc
    have hne : t.date.isoText ≠ [] := List.ne_nil_of_length_pos (by simp [Date.length_isoText])
    rw [isoText_eq, List.head?_append_of_ne_nil _ hne] at hc
    exact (t.date.isIsoChar c (List.mem_of_mem_head? hc)).isSpace_eq_false
  last := by
    intro c hc
    obtain ⟨d, s, hs⟩ := List.exists_cons_of_ne_nil (clockText_ne_nil h)
    rw [isoText_eq, List.getLast?_append_of_ne_nil _ (List.cons_ne_nil _ _), hs,
      List.getLast?_cons_cons, ← hs] at hc
    exact (isIsoChar_clockText h c (List.mem_of_getLast? hc)).isSpace_eq_false

/-- A moment in ISO 8601 form is read, its zone named for the distance from UTC. -/
theorem readMoment_isoText (h : t.IsPlain) (hseparator : isAscii separator = true)
    (hzulu : separator ≠ 'Z') (today : Date) :
    (Value.text (String.ofList (t.isoText separator))).readMoment today =
      .ok { t with zone := t.zone.map fun z => .fixed z.offset } := by
  have hne : t.isoText separator ≠ [] := by
    rw [isoText_eq]
    exact List.append_ne_nil_of_right_ne_nil _ (List.cons_ne_nil _ _)
  have hplain : ¬ ['Z'] <:+: t.isoText separator := by
    intro hmem
    obtain hiso | rfl := isIsoChar_isoText h _ (hmem.subset List.mem_cons_self)
    · exact hiso.ne_zulu rfl
    · exact hzulu rfl
  have hreplace : replaceAll ['Z'] ['+', '0', '0', ':', '0', '0'] (t.isoText separator) =
      t.isoText separator := by
    rw [replaceAll, splitOn_of_not_infix (by decide) hplain]
    rfl
  refine Value.readMoment_of_text (isNumeric_isoText t separator) (isTrimmed_isoText h) hne ?_
  rw [Value.momentOfText, hreplace, readIso?_isoText h hseparator]

/-! ## Formats -/

variable {l : Locale}

theorem format_dateAndTime (h : t.time.microsecond = 0) (hzone : t.zone = none) :
    t.format l "Y-m-d H:i:s".toList = .ok (t.isoText ' ') := by
  have hformat : t.format l "Y-m-d H:i:s".toList =
      .ok (padded 4 t.date.year ++ '-' :: (padded 2 t.date.month ++ '-' :: (padded 2 t.date.day ++
        ' ' :: (padded 2 t.time.hour ++ ':' :: (padded 2 t.time.minute ++
          ':' :: (padded 2 t.time.second ++ [])))))) := rfl
  rw [hformat, isoText_eq, Date.isoText_append, clockText, hzone, Time.isoText_append h]

/-- Whole minutes of a distance from UTC are written as ISO 8601 form has them. -/
theorem offsetDigits_colon {offset : Option Int} (hoffset : t.offset? = .ok offset)
    (hminutes : 60000000 ∣ offset.getD 0) :
    t.offsetDigits [':'] = .ok (offsetText (offset.getD 0)) := by
  rw [offsetText_minutes hminutes]
  obtain ⟨minutes, hoffset'⟩ := hminutes
  have hseconds : Int.tdiv (offset.getD 0) 1000000 = minutes * 60 := by
    rw [hoffset', show (60000000 : Int) * minutes = minutes * 60 * 1000000 by omega]
    exact Int.mul_tdiv_cancel _ (by decide)
  have hsign : minutes * 60 < 0 ↔ offset.getD 0 < 0 := by omega
  have hwhole : (minutes * 60).natAbs / 60 = (offset.getD 0).natAbs / 60000000 := by omega
  unfold offsetDigits
  simp only [hoffset, bind, Except.bind, hseconds, hsign, hwhole]
  simp [pure, Except.pure]

theorem format_iso (h : t.time.microsecond = 0) {offset : Option Int}
    (hoffset : t.offset? = .ok offset) (hminutes : 60000000 ∣ offset.getD 0) :
    t.format l "c".toList =
      .ok ({ t with zone := some (.fixed (offset.getD 0)) }.isoText 'T') := by
  have hdigits := offsetDigits_colon hoffset hminutes
  have hinner : expand (t.writeLetter .english) "Y-m-d\\TH:i:sP".toList =
      .ok (padded 4 t.date.year ++ '-' :: (padded 2 t.date.month ++ '-' :: (padded 2 t.date.day ++
        'T' :: (padded 2 t.time.hour ++ ':' :: (padded 2 t.time.minute ++
          ':' :: (padded 2 t.time.second ++ (offsetText (offset.getD 0) ++ []))))))) := by
    simp [expand, writeLetter, letter?, hdigits, bind, Except.bind, pure, Except.pure]
  have hformat : t.format l "c".toList =
      (do return (← expand (t.writeLetter .english) "Y-m-d\\TH:i:sP".toList) ++ []) := rfl
  rw [hformat, hinner, isoText_eq, Date.isoText_append, clockText, Time.isoText_append h]
  simp [bind, Except.bind, pure, Except.pure, Zone.offset_fixed]

theorem format_seconds {seconds : Int} (h : t.unixSeconds = .ok seconds) :
    t.format l "U".toList = .ok (intText seconds) := by
  have hformat : t.format l "U".toList = (do return (← t.unixSeconds.map intText) ++ []) := rfl
  rw [hformat, h]
  simp [bind, Except.bind, Except.map, pure, Except.pure]

/-! ## Written and read again -/

/-- A moment written by a format and read again. -/
def reread (today : Date) (l : Locale) (f : String) (t : DateTime) : Except Failure DateTime := do
  (Value.text (String.ofList (← t.format l f.toList))).readMoment today

theorem reread_eq {today : Date} {f : String} {s : List Char} (h : t.format l f.toList = .ok s) :
    t.reread today l f = (Value.text (String.ofList s)).readMoment today := by
  unfold reread
  rw [h]
  rfl

/-- The seconds of a moment are read as the instant that many seconds after the epoch. -/
theorem reread_seconds {seconds : Int} (hseconds : t.unixSeconds = .ok seconds)
    (hfirst : firstWall ≤ seconds * 1000000 + epoch) (hlast : seconds ≤ 10 ^ 11) (today : Date)
    (l : Locale) : ∃ t', t.reread today l "U" = .ok t' ∧ t'.zone = some .utc ∧
      t'.instant = seconds * 1000000 + epoch := by
  have hepoch : epoch = 62135683200000000 := by decide
  have hday : firstWall = 86400000000 := rfl
  obtain ⟨x, hread, hx⟩ := readFloat?_intText (n := seconds) (by omega)
  have hsigned := Binary64.signed_natAbs seconds
  obtain ⟨t', ht', hzone, hinstant⟩ :=
    ofTimestamp_whole hx (by rwa [hsigned]) (by rwa [hsigned])
  rw [hsigned] at hinstant
  have hne : intText seconds ≠ [] := by
    rw [intText_eq]
    exact List.append_ne_nil_of_right_ne_nil _ (digits_ne_nil _)
  refine ⟨t', ?_, hzone, hinstant⟩
  rw [reread_eq (format_seconds hseconds),
    Value.readMoment_of_number (isNumeric_intText seconds) hread hne, ht']

/-- A distance from UTC that can be asked for is less than a day. -/
theorem offset?_eq_ok {offset : Option Int} (h : t.offset? = .ok offset) :
    offset = t.zone.map Zone.offset ∧ -dayMicros < offset.getD 0 ∧ offset.getD 0 < dayMicros := by
  unfold offset? at h
  cases hzone : t.zone with
  | none =>
    simp only [hzone] at h
    cases h
    exact ⟨rfl, by decide, by decide⟩
  | some z =>
    simp only [hzone, Zone.offset?] at h
    split at h
    · next hday =>
      cases h
      exact ⟨rfl, hday⟩
    · cases h

/-- A moment `t` without a fraction of a second that is written and read again.  Date and time give
    it back if it is local.  ISO 8601 form gives its date and time at its distance from UTC, whole
    minutes.  The seconds since the epoch give its instant, if it is whole seconds away from UTC
    and lies between the first day of the calendar and the limit for milliseconds. -/
theorem reread_formats {offset : Option Int} (hoffset : t.offset? = .ok offset)
    (hmicros : t.time.microsecond = 0) (today : Date) (l : Locale) :
    (offset = none → t.reread today l "Y-m-d H:i:s" = .ok t) ∧
    (60000000 ∣ offset.getD 0 →
      t.reread today l "c" = .ok { t with zone := some (.fixed (offset.getD 0)) }) ∧
    (1000000 ∣ offset.getD 0 → firstWall ≤ t.instant → t.instant ≤ epoch + 10 ^ 11 * 1000000 →
      ∃ t', t.reread today l "U" = .ok t' ∧ t'.zone = some .utc ∧ t'.instant = t.instant) := by
  obtain ⟨hzone, hlow, hhigh⟩ := offset?_eq_ok hoffset
  refine ⟨?_, ?_, ?_⟩
  · rintro rfl
    have hlocal : t.zone = none := Option.map_eq_none_iff.1 hzone.symm
    rw [reread_eq (format_dateAndTime hmicros hlocal),
      readMoment_isoText (isPlain_local hmicros hlocal) (by decide) (by decide)]
    cases t
    cases hlocal
    rfl
  · intro hminutes
    rw [reread_eq (format_iso hmicros hoffset hminutes),
      readMoment_isoText (isPlain_fixed hmicros hminutes hlow hhigh) (by decide) (by decide)]
    simp only [Option.map_some, Zone.offset_fixed]
  · intro hwhole hfirst hlast
    have hmicros' : t.offsetMicros = offset.getD 0 := by
      rw [hzone, offsetMicros]
      cases t.zone <;> rfl
    obtain ⟨seconds, hseconds⟩ := exists_seconds hmicros (hmicros' ▸ hwhole)
    have hepoch : epoch = 62135683200000000 := by decide
    have hday : firstWall = 86400000000 := rfl
    -- so few seconds are exact in double precision
    have hunix := unixSeconds_eq hoffset hseconds (by omega)
    rw [hseconds] at hfirst hlast ⊢
    exact reread_seconds hunix hfirst (by omega) today l

/-- The last second of 1969 on a local clock. -/
def lastSecond : DateTime :=
  ⟨⟨1969, 12, 31, by decide⟩, ⟨23, 59, 59, 0, by decide⟩, none⟩

/-- The same clock three hours and a half behind UTC. -/
def lastSecondWest : DateTime := { lastSecond with zone := some (.fixed (-12600000000)) }

theorem reread_formats_lastSecond :
    lastSecond.reread lastSecond.date .english "Y-m-d H:i:s" = .ok lastSecond ∧
    lastSecondWest.reread lastSecond.date .english "c" = .ok lastSecondWest ∧
    ∃ t', lastSecondWest.reread lastSecond.date .english "U" = .ok t' ∧ t'.zone = some .utc ∧
      t'.instant = lastSecondWest.instant := by
  have hnone : lastSecond.offset? = .ok none := rfl
  have hsome : lastSecondWest.offset? = .ok (some (-12600000000)) := by decide
  obtain ⟨hlocal, -, -⟩ := reread_formats hnone rfl lastSecond.date .english
  obtain ⟨-, hiso, hseconds⟩ := reread_formats hsome rfl lastSecond.date .english
  exact ⟨hlocal rfl, hiso (by decide), hseconds (by decide) (by decide) (by decide)⟩

/-- The epoch on a clock one second and a half ahead of UTC. -/
def epochAhead : DateTime :=
  ⟨⟨1970, 1, 1, by decide⟩, .midnight, some (.fixed 1500000)⟩

/-- Without whole seconds to UTC a moment is not whole seconds away from the epoch, and the rest is
    lost. -/
theorem not_forall_reread_seconds :
    ¬ ∀ (t : DateTime) (offset : Option Int) (today : Date) (l : Locale),
      t.offset? = .ok offset → t.time.microsecond = 0 → firstWall ≤ t.instant →
      t.instant ≤ epoch + 10 ^ 11 * 1000000 →
      ∃ t', t.reread today l "U" = .ok t' ∧ t'.zone = some .utc ∧ t'.instant = t.instant := by
  intro h
  obtain ⟨t', ht', -, hinstant⟩ := h epochAhead (some 1500000) lastSecond.date .english
    (by decide) rfl (by decide) (by decide)
  have hunix : epochAhead.unixSeconds = .ok (-1) := by decide
  obtain ⟨t'', ht'', -, hinstant'⟩ :=
    reread_seconds hunix (by decide) (by decide) lastSecond.date .english
  rw [ht'] at ht''
  cases ht''
  rw [hinstant] at hinstant'
  exact absurd hinstant' (by decide)

end Calendar.DateTime
end RecordTemplate
