/-
  RecordTemplate.Proofs.Calendar.Written

  Moments written in ISO 8601 form.  Each number is padded to its width and taken back as that
  many digits (`takeDigits?_padded`), so a moment without a fraction of a second, in a zone whole
  minutes away from UTC, is read as it was written (`DateTime.readIso?_isoText`).
-/

import RecordTemplate.Calendar.IsoReader
import RecordTemplate.Proofs.Calendar.Ordinals
import RecordTemplate.Proofs.Number.Denoted

namespace RecordTemplate.Calendar

open RecordTemplate.Text RecordTemplate.Number

/-! ## Digits -/

/-- A padded number is taken back from the beginning of a text. -/
theorem takeDigits?_padded {width n : Nat} (hwidth : 0 < width) (h : n < 10 ^ width)
    (rest : List Char) : takeDigits? width (padded width n ++ rest) = some (n, rest) := by
  have hlength := length_padded hwidth h
  obtain ⟨hdigits, hvalue⟩ := isNumeral_padded width n
  unfold takeDigits?
  dsimp only
  rw [List.take_left' hlength, List.drop_left' hlength, hvalue]
  exact if_pos ⟨hlength, List.all_eq_true.2 hdigits⟩

/-- A padded number begins with a digit. -/
theorem peek_padded (width n : Nat) (rest : List Char) :
    isAsciiDigit (peek (padded width n ++ rest)) = true := by
  have hdigits := (isNumeral_padded width n).digits
  have hne : padded width n ≠ [] := by
    unfold padded
    exact List.append_ne_nil_of_right_ne_nil _ Nat.toDigits_ne_nil
  obtain ⟨c, s, hs⟩ := List.exists_cons_of_ne_nil hne
  rw [hs] at hdigits ⊢
  exact hdigits c List.mem_cons_self

/-- A character of ASCII is one byte long. -/
theorem utf8Size_of_isAscii {c : Char} (h : isAscii c = true) : c.utf8Size = 1 := by
  have hcode : c.toNat < 128 := of_decide_eq_true h
  have hval : c.val ≤ 0x7F := UInt32.le_iff_toNat_le.2 (Nat.le_of_lt_succ hcode)
  exact Char.utf8Size_eq_one_iff.2 hval

theorem widened_of_isAscii {s : List Char} (h : ∀ c ∈ s, isAscii c = true) : widened s = s := by
  unfold widened
  induction s with
  | nil => rfl
  | cons c s ih =>
    rw [List.flatMap_cons, ih fun d hd => h d (List.mem_cons_of_mem _ hd),
      utf8Size_of_isAscii (h c List.mem_cons_self)]
    rfl

/-! ## Characters -/

/-- The characters of dates, clocks and zones. -/
def IsIsoChar (c : Char) : Prop := isAsciiDigit c = true ∨ c ∈ [':', '+', '-']

namespace IsIsoChar

variable {c : Char} (h : IsIsoChar c)

include h

theorem isAscii : isAscii c = true := by
  obtain hdigit | hmark := h
  · exact isAscii_of_isAsciiDigit hdigit
  · revert c
    decide

theorem isSpace_eq_false : isSpace c = false := by
  obtain hdigit | hmark := h
  · exact isSpace_of_isDecimal (isDecimal_of_isAsciiDigit hdigit)
  · revert c
    decide

theorem ne_zulu : c ≠ 'Z' := by
  rintro rfl
  obtain hdigit | hmark := h
  · exact absurd hdigit (by decide)
  · exact absurd hmark (by decide)

end IsIsoChar

theorem isIsoChar_of_mem_padded {width n : Nat} {c : Char} (h : c ∈ padded width n) : IsIsoChar c :=
  .inl ((isNumeral_padded width n).digits c h)

/-! ## The date -/

namespace Date

variable (d : Date) (rest : List Char)

theorem isoText_append : d.isoText ++ rest = padded 4 d.year ++
    '-' :: (padded 2 d.month ++ '-' :: (padded 2 d.day ++ rest)) := by
  simp [isoText]

theorem bounds : d.year < 10 ^ 4 ∧ d.month < 10 ^ 2 ∧ d.day < 10 ^ 2 := by
  obtain ⟨-, hyear, -, hmonth, -, hday⟩ := d.isDay
  have hlength := daysInMonth_bounds d.year d.month
  unfold maxYear at hyear
  omega

theorem length_isoText : d.isoText.length = 10 := by
  obtain ⟨hyear, hmonth, hday⟩ := d.bounds
  simp [isoText, length_padded (by decide) hyear, length_padded (by decide) hmonth,
    length_padded (by decide) hday]

theorem isIsoChar : ∀ c ∈ d.isoText, IsIsoChar c := by
  intro c hc
  have hhyphen : IsIsoChar '-' := .inr (by decide)
  simp only [isoText, List.mem_append, List.mem_cons] at hc
  obtain (hc | rfl | hc) | rfl | hc := hc
  · exact isIsoChar_of_mem_padded hc
  · exact hhyphen
  · exact isIsoChar_of_mem_padded hc
  · exact hhyphen
  · exact isIsoChar_of_mem_padded hc

/-- The date is read up to the separator. -/
theorem readIsoDate?_isoText : readIsoDate? (d.isoText ++ rest) 10 = some d := by
  obtain ⟨hyear, hmonth, hday⟩ := d.bounds
  have hweek : ¬ (peek (padded 2 d.month ++ '-' :: (padded 2 d.day ++ rest)) == 'W') = true := by
    intro h
    have hdigit := peek_padded 2 d.month ('-' :: (padded 2 d.day ++ rest))
    rw [beq_iff_eq.1 h] at hdigit
    exact absurd hdigit (by decide)
  have hyphen : ∀ s, (peek ('-' :: s) == '-') = true := fun s => rfl
  have hafter : ∀ s, after? ['-'] ('-' :: s) = some s := fun s => after?_eq_some_iff.2 rfl
  have hend : (padded 4 d.year ++ '-' :: (padded 2 d.month ++ '-' ::
      (padded 2 d.day ++ rest))).length - rest.length = 10 := by
    rw [← isoText_append, List.length_append, d.length_isoText]
    omega
  unfold readIsoDate?
  rw [isoText_append, takeDigits?_padded (by decide) hyear]
  simp only [bind, Option.bind, hyphen, if_true, List.drop_succ_cons, List.drop_zero, if_neg hweek,
    takeDigits?_padded (by decide) hmonth, hafter, takeDigits?_padded (by decide) hday, hend]
  exact dif_pos d.isDay

/-- The separator stands behind the ten characters of the date. -/
theorem separatorAt?_isoText (separator : Char) :
    separatorAt? (d.isoText ++ separator :: rest) = some 10 := by
  obtain ⟨hyear, -, -⟩ := d.bounds
  have hlength := d.length_isoText
  have htail : (d.isoText ++ separator :: rest).drop 4 =
      '-' :: (padded 2 d.month ++ '-' :: (padded 2 d.day ++ separator :: rest)) := by
    rw [isoText_append, List.drop_left' (length_padded (by decide) hyear)]
  -- a hyphen and a digit after the year: a date of a month, not of a week
  have hfifth : (d.isoText ++ separator :: rest)[4]? = some '-' := by
    rw [← Nat.add_zero 4, ← List.getElem?_drop, htail]
    rfl
  have hsixth : (d.isoText ++ separator :: rest)[5]? ≠ some 'W' := by
    have hdigit := peek_padded 2 d.month ('-' :: (padded 2 d.day ++ separator :: rest))
    rw [show 5 = 4 + 1 from rfl, ← List.getElem?_drop, htail, List.getElem?_cons_succ,
      ← List.head?_eq_getElem?]
    intro h
    unfold peek at hdigit
    rw [List.headD_eq_head?_getD, h] at hdigit
    exact absurd hdigit (by decide)
  unfold separatorAt?
  dsimp only
  rw [List.length_append, hlength, List.length_cons, if_neg (by omega), if_neg (by omega),
    if_pos hfifth, if_neg hsixth]

end Date

/-! ## The clock -/

/-- A field with a colon behind it is read, and the fields after it as well. -/
theorem clockFields?_colon {n region : Nat} (hn : n < 10 ^ 2) {colons : Option Bool}
    (hcolons : colons.getD true = true) (hregion : 4 ≤ region) (count : Nat) (rest : List Char) :
    clockFields? colons (count + 1) region (padded 2 n ++ ':' :: rest) =
      (clockFields? (some true) count (region - 3) rest).map fun r => (n :: r.1, r.2) := by
  have hpeek : peek (':' :: rest) = ':' := rfl
  have hget : colons.getD (':' == ':') = true := hcolons
  have hleft : ¬ region - 2 ≤ 1 := by omega
  have hnext : region - 2 - 1 = region - 3 := by omega
  rw [clockFields?, takeDigits?_padded (by decide) hn]
  simp only [bind, Option.bind, hget, hpeek, if_neg hleft, and_self, if_true, hnext,
    List.drop_succ_cons, List.drop_zero]

/-- The last field fills the region. -/
theorem clockFields?_last {n : Nat} (hn : n < 10 ^ 2) (colons : Option Bool) (count : Nat)
    (rest : List Char) : clockFields? colons (count + 1) 2 (padded 2 n ++ rest) =
      some ([n], .done (peek rest ≠ '\x00')) := by
  rw [clockFields?, takeDigits?_padded (by decide) hn]
  simp only [bind, Option.bind, Nat.sub_self, Nat.zero_le, if_true]

theorem readClock?_seconds {hour minute second : Nat} (hhour : hour < 10 ^ 2)
    (hminute : minute < 10 ^ 2) (hsecond : second < 10 ^ 2) (rest : List Char) :
    readClock? 8 (padded 2 hour ++ ':' :: (padded 2 minute ++ ':' :: (padded 2 second ++ rest))) =
      some (⟨hour, minute, second, 0⟩, decide (peek rest ≠ '\x00')) := by
  unfold readClock?
  rw [clockFields?_colon hhour rfl (by decide), clockFields?_colon hminute rfl (by decide),
    clockFields?_last hsecond]
  rfl

theorem readClock?_minutes {hour minute : Nat} (hhour : hour < 10 ^ 2) (hminute : minute < 10 ^ 2) :
    readClock? 5 (padded 2 hour ++ ':' :: padded 2 minute) =
      some (⟨hour, minute, 0, 0⟩, false) := by
  have hlast := clockFields?_last hminute (some true) 1 []
  rw [List.append_nil] at hlast
  unfold readClock?
  rw [clockFields?_colon hhour rfl (by decide), hlast]
  rfl

/-- A time without a fraction of a second. -/
theorem Time.isoText_append {t : Time} (h : t.microsecond = 0) (rest : List Char) :
    t.isoText ++ rest =
      padded 2 t.hour ++ ':' :: (padded 2 t.minute ++ ':' :: (padded 2 t.second ++ rest)) := by
  simp [isoText, h]

theorem Time.bounds (t : Time) : t.hour < 10 ^ 2 ∧ t.minute < 10 ^ 2 ∧ t.second < 10 ^ 2 := by
  obtain ⟨hhour, hminute, hsecond, -⟩ := t.inRange
  omega

namespace Time

variable {t : Time} (h : t.microsecond = 0)

include h

theorem length_isoText : t.isoText.length = 8 := by
  obtain ⟨hhour, hminute, hsecond⟩ := t.bounds
  rw [← List.append_nil t.isoText, isoText_append h]
  simp [length_padded (by decide) hhour, length_padded (by decide) hminute,
    length_padded (by decide) hsecond]

theorem isIsoChar : ∀ c ∈ t.isoText, IsIsoChar c ∧ c ≠ '+' ∧ c ≠ '-' := by
  intro c hc
  have hpadded : ∀ n, c ∈ padded 2 n → IsIsoChar c ∧ c ≠ '+' ∧ c ≠ '-' := fun n hn =>
    ⟨isIsoChar_of_mem_padded hn, ne_of_isDecimal ((isNumeral_padded 2 n).isDigits c hn)⟩
  have hcolon : IsIsoChar ':' ∧ ':' ≠ '+' ∧ ':' ≠ '-' := ⟨.inr (by decide), by decide, by decide⟩
  rw [← List.append_nil t.isoText, isoText_append h] at hc
  simp only [List.mem_append, List.mem_cons, List.not_mem_nil, or_false] at hc
  obtain hc | rfl | hc | rfl | hc := hc
  · exact hpadded _ hc
  · exact hcolon
  · exact hpadded _ hc
  · exact hcolon
  · exact hpadded _ hc

theorem of?_self : Time.of? t.hour t.minute t.second 0 = some t := by
  have hrange := t.inRange
  rw [h] at hrange
  rw [of?, dif_pos hrange]
  cases t
  cases h
  rfl

/-- A time alone is local. -/
theorem readIsoTime?_isoText : readIsoTime? t.isoText = some (t, none) := by
  obtain ⟨hhour, hminute, hsecond⟩ := t.bounds
  have hlength := length_isoText h
  have hregion : (t.isoText.takeWhile fun c => decide (c ≠ '+' ∧ c ≠ '-')).length = 8 := by
    rw [List.takeWhile_eq_self_iff.2 (fun c hc => decide_eq_true (isIsoChar h c hc).2), hlength]
  have hne : t.isoText ≠ [] := List.ne_nil_of_length_pos (by omega)
  have hclock : readClock? 8 t.isoText = some (⟨t.hour, t.minute, t.second, 0⟩, false) := by
    rw [← List.append_nil t.isoText, isoText_append h, readClock?_seconds hhour hminute hsecond]
    rfl
  unfold readIsoTime?
  rw [if_neg hne]
  simp only [bind, Option.bind, hregion, hclock, of?_self h, hlength, if_true]
  rfl

end Time

/-! ## The zone -/

theorem Zone.offset_fixed (offset : Int) : (Zone.fixed offset).offset = offset := by
  unfold fixed
  split
  · next h => exact h.symm
  · rfl

/-- The distance of a zone whole minutes away from UTC. -/
theorem offsetText_minutes {offset : Int} (h : 60000000 ∣ offset) :
    offsetText offset = (if offset < 0 then '-' else '+') ::
      (padded 2 (offset.natAbs / 60000000 / 60) ++ ':' ::
        padded 2 (offset.natAbs / 60000000 % 60)) := by
  have hmicros : offset.natAbs % 1000000 = 0 := by omega
  have hseconds : offset.natAbs % 60000000 = 0 := by omega
  have hhours : offset.natAbs / 1000000 / 3600 = offset.natAbs / 60000000 / 60 := by omega
  have hminutes : offset.natAbs / 1000000 / 60 % 60 = offset.natAbs / 60000000 % 60 := by omega
  unfold offsetText
  simp only [hmicros, hseconds, hhours, hminutes, if_true, List.append_nil, List.cons_append]

theorem isIsoChar_offsetText {offset : Int} (h : 60000000 ∣ offset) :
    ∀ c ∈ offsetText offset, IsIsoChar c := by
  intro c hc
  rw [offsetText_minutes h] at hc
  simp only [List.mem_append, List.mem_cons] at hc
  obtain rfl | hc | rfl | hc := hc
  · split
    · exact .inr (by decide)
    · exact .inr (by decide)
  · exact isIsoChar_of_mem_padded hc
  · exact .inr (by decide)
  · exact isIsoChar_of_mem_padded hc

/-- A clock of hours and minutes behind a sign is read as the distance that it was written for. -/
theorem offset_of_clock {offset : Int} {hours minutes : Nat}
    (h : (hours * 60 + minutes) * 60000000 = offset.natAbs) {sign : Char}
    (hsign : (if offset < 0 then '-' else '+') = sign) :
    (if Clock.seconds ⟨hours, minutes, 0, 0⟩ = 0 then (0 : Int)
      else if sign = '-' then -((Clock.seconds ⟨hours, minutes, 0, 0⟩ : Int) * 1000000 + (0 : Nat))
      else (Clock.seconds ⟨hours, minutes, 0, 0⟩ : Int) * 1000000 + (0 : Nat)) = offset := by
  have hminus : sign = '-' ↔ offset < 0 := by
    rw [← hsign]
    split <;> simp_all
  unfold Clock.seconds
  simp only [hminus]
  split
  · omega
  · split <;> omega

theorem Time.readIsoTime?_zoned {t : Time} (h : t.microsecond = 0) {offset : Int}
    (hminutes : 60000000 ∣ offset) (hlow : -dayMicros < offset) (hhigh : offset < dayMicros) :
    readIsoTime? (t.isoText ++ offsetText offset) = some (t, some (.fixed offset)) := by
  obtain ⟨hhour, hminute, hsecond⟩ := t.bounds
  have hday : dayMicros = 86400000000 := rfl
  have habs : (offset.natAbs / 60000000 / 60 * 60 + offset.natAbs / 60000000 % 60) * 60000000 =
      offset.natAbs := by omega
  have hours : offset.natAbs / 60000000 / 60 < 10 ^ 2 := by omega
  have minutes : offset.natAbs / 60000000 % 60 < 10 ^ 2 := by omega
  have hvalue := @offset_of_clock _ _ _ habs _ rfl
  rw [offsetText_minutes hminutes]
  generalize offset.natAbs / 60000000 / 60 = a at hours hvalue ⊢
  generalize offset.natAbs / 60000000 % 60 = b at minutes hvalue ⊢
  generalize hsign : (if offset < 0 then '-' else '+') = sign at hvalue ⊢
  have hsigned : decide (sign ≠ '+' ∧ sign ≠ '-') = false := by
    rw [← hsign]
    split <;> decide
  have hlength := length_isoText h
  have htail : (padded 2 a ++ ':' :: padded 2 b).length = 5 := by
    simp [length_padded (by decide) hours, length_padded (by decide) minutes]
  -- the clock ends at the sign
  have hregion : ((t.isoText ++ sign :: (padded 2 a ++ ':' :: padded 2 b)).takeWhile fun c =>
      decide (c ≠ '+' ∧ c ≠ '-')).length = 8 := by
    rw [takeWhile_span (fun c hc => decide_eq_true (isIsoChar h c hc).2)
      (by rintro c ⟨⟩; exact hsigned), hlength]
  obtain ⟨junk, hclock⟩ : ∃ junk,
      readClock? 8 (t.isoText ++ sign :: (padded 2 a ++ ':' :: padded 2 b)) =
        some (⟨t.hour, t.minute, t.second, 0⟩, junk) := by
    rw [isoText_append h, readClock?_seconds hhour hminute hsecond]
    exact ⟨_, rfl⟩
  have hzone : ¬ 8 = (t.isoText ++ sign :: (padded 2 a ++ ':' :: padded 2 b)).length := by
    rw [List.length_append, hlength]
    simp
  have hpeek : ∀ s, peek (sign :: s) = sign := fun s => rfl
  unfold readIsoTime?
  rw [if_neg (by simp)]
  simp only [bind, Option.bind, hregion, hclock, of?_self h, if_neg hzone,
    List.drop_left' hlength, List.length_cons, List.drop_succ_cons, List.drop_zero,
    Nat.add_sub_cancel, htail, readClock?_minutes hours minutes, hpeek, hvalue,
    if_pos (And.intro hlow hhigh)]
  rfl

/-! ## Moments -/

namespace DateTime

variable {t : DateTime} {separator : Char}

/-- A moment that ISO 8601 form with whole minutes can tell: it has no fraction of a second, and a
    zone is whole minutes and less than a day away from UTC. -/
structure IsPlain (t : DateTime) : Prop where
  microsecond : t.time.microsecond = 0
  zone : ∀ z, t.zone = some z → 60000000 ∣ z.offset ∧ -dayMicros < z.offset ∧ z.offset < dayMicros

theorem isPlain_local (hmicros : t.time.microsecond = 0) (hzone : t.zone = none) : t.IsPlain where
  microsecond := hmicros
  zone := by simp [hzone]

/-- A moment without a fraction of a second, taken to be at a distance from UTC. -/
theorem isPlain_fixed {offset : Int} (hmicros : t.time.microsecond = 0)
    (hminutes : 60000000 ∣ offset) (hlow : -dayMicros < offset) (hhigh : offset < dayMicros) :
    { t with zone := some (Zone.fixed offset) }.IsPlain where
  microsecond := hmicros
  zone := by
    rintro z ⟨⟩
    rw [Zone.offset_fixed]
    exact ⟨hminutes, hlow, hhigh⟩

/-- What stands behind the separator. -/
def clockText (t : DateTime) : List Char :=
  t.time.isoText ++ (match t.zone with | some z => offsetText z.offset | none => [])

theorem isoText_eq (t : DateTime) (separator : Char) :
    t.isoText separator = t.date.isoText ++ separator :: t.clockText := by
  unfold isoText clockText
  cases t.zone <;> simp

theorem isIsoChar_clockText (h : t.IsPlain) : ∀ c ∈ t.clockText, IsIsoChar c := by
  intro c hc
  obtain hc | hc := List.mem_append.1 hc
  · exact (Time.isIsoChar h.microsecond c hc).1
  · cases hzone : t.zone with
    | none => simp [hzone] at hc
    | some z => exact isIsoChar_offsetText (h.zone z hzone).1 c (by simpa [hzone] using hc)

theorem clockText_ne_nil (h : t.IsPlain) : t.clockText ≠ [] := by
  have hlength := Time.length_isoText h.microsecond
  unfold clockText
  exact List.append_ne_nil_of_left_ne_nil (List.ne_nil_of_length_pos (by omega)) _

theorem isIsoChar_isoText (h : t.IsPlain) :
    ∀ c ∈ t.isoText separator, IsIsoChar c ∨ c = separator := by
  intro c hc
  rw [isoText_eq, List.mem_append, List.mem_cons] at hc
  obtain hc | rfl | hc := hc
  · exact .inl (t.date.isIsoChar c hc)
  · exact .inr rfl
  · exact .inl (isIsoChar_clockText h c hc)

theorem readIsoTime?_clockText (h : t.IsPlain) :
    readIsoTime? t.clockText = some (t.time, t.zone.map fun z => .fixed z.offset) := by
  unfold clockText
  cases hzone : t.zone with
  | none =>
    rw [List.append_nil]
    exact Time.readIsoTime?_isoText h.microsecond
  | some z =>
    obtain ⟨hminutes, hlow, hhigh⟩ := h.zone z hzone
    exact Time.readIsoTime?_zoned h.microsecond hminutes hlow hhigh

/-- A moment is read as it was written, its zone named for the distance from UTC. -/
theorem readIso?_isoText (h : t.IsPlain) (hseparator : isAscii separator = true) :
    readIso? (t.isoText separator) =
      some { t with zone := t.zone.map fun z => .fixed z.offset } := by
  have hascii : ∀ c ∈ t.isoText separator, isAscii c = true := by
    intro c hc
    obtain hiso | rfl := isIsoChar_isoText h c hc
    · exact hiso.isAscii
    · exact hseparator
  unfold readIso?
  rw [widened_of_isAscii hascii, isoText_eq]
  simp only [bind, Option.bind, Date.separatorAt?_isoText, Date.readIsoDate?_isoText,
    List.drop_left' t.date.length_isoText, utf8Size_of_isAscii hseparator, Nat.sub_self,
    List.drop_zero, readIsoTime?_clockText h]

end DateTime

end RecordTemplate.Calendar
