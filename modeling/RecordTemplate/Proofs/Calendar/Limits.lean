/-
  RecordTemplate.Proofs.Calendar.Limits

  Moments whose zone is a day or more away from UTC.  They can be read and compared by their
  wall clock, but the distance itself cannot be asked for: a format fails exactly on the letters
  that show it (`DateTime.fails_format`), and there is no distance in words to or from them.
-/

import RecordTemplate.Calendar.Distance
import RecordTemplate.Calendar.Format
import RecordTemplate.Calendar.Timestamp
import RecordTemplate.Proofs.Failing

namespace RecordTemplate.Calendar

open RecordTemplate.Number RecordTemplate.Render

namespace DateTime

/-! ## Zones -/

/-- The zone of a moment is a day or more away from UTC. -/
def HasFarZone (t : DateTime) : Prop :=
  ∃ z, t.zone = some z ∧ (z.offset ≤ -dayMicros ∨ dayMicros ≤ z.offset)

theorem fails_offset? {t : DateTime} : Fails t.offset? ↔ t.HasFarZone := by
  unfold offset? HasFarZone
  cases t.zone with
  | none => simp
  | some z =>
    simp only [fails_map, Option.some.injEq, exists_eq_left', Zone.offset?]
    split
    · simp only [fails_ok, false_iff]
      omega
    · simp only [fails_error, true_iff]
      omega

/-! ## Formats -/

/-- The characters of a format that are not taken literally by a backslash. -/
def activeLetters : List Char → List Char
  | [] => []
  | '\\' :: [] => []
  | '\\' :: _ :: rest => activeLetters rest
  | c :: rest => c :: activeLetters rest

/-- A format fails when one of its active letters does. -/
theorem fails_expand {write : Char → Except Failure (List Char)} (f : List Char) :
    Fails (expand write f) ↔ ∃ c ∈ activeLetters f, Fails (write c) := by
  fun_induction activeLetters f with
  | case1 => simp [expand]
  | case2 => simp [expand]
  | case3 c rest ih => rw [expand, fails_do_pure, ih]
  | case4 c rest hend hescape ih =>
    rw [expand, fails_do_const fun _ => fails_do_pure.trans ih]
    · simp only [List.mem_cons, exists_eq_or_imp]
    · exact hend
    · exact hescape

/-- The letters that ask for the distance of a zone from UTC. -/
def offsetLetters : List Char := ['P', 'O', 'U']

/-- The letters that ask for it themselves or stand for a format that does. -/
def zoneLetters : List Char := offsetLetters ++ ['c', 'r']

theorem fails_offsetDigits {t : DateTime} {separator : List Char} :
    Fails (t.offsetDigits separator) ↔ t.HasFarZone := by
  unfold offsetDigits
  exact fails_do_pure.trans fails_offset?

theorem fails_unixSeconds {t : DateTime} : Fails t.unixSeconds ↔ t.HasFarZone := by
  rw [← fails_offset?]
  unfold unixSeconds
  cases t.offset? with
  | error e => exact iff_of_true fails_error fails_error
  | ok offset =>
    -- whatever the seconds are rounded to, they have a whole part or count as zero
    refine iff_of_false ?_ fails_ok
    simp only [bind, Except.bind]
    split <;> exact fails_pure

/-- A letter with a meaning of its own fails when it asks for the distance of a far zone. -/
theorem fails_writeLetter {t : DateTime} {l : Locale} {c : Char} :
    Fails (t.writeLetter l c) ↔ t.HasFarZone ∧ c ∈ offsetLetters := by
  unfold writeLetter letter? offsetLetters
  split
  all_goals simp [fails_offsetDigits, fails_unixSeconds]
  -- no letter with a meaning
  exact fun _ => ⟨‹_›, ‹_›, ‹_›⟩

/-- Both formats that a letter can stand for show the distance from UTC. -/
theorem mem_activeLetters_of_compound? {c : Char} {f : String} (h : compound? c = some f) :
    c ∈ ['c', 'r'] ∧ ∃ d ∈ activeLetters f.toList, d ∈ offsetLetters := by
  unfold compound? at h
  split at h <;> cases h
  · exact ⟨by decide, 'P', by decide, by decide⟩
  · exact ⟨by decide, 'O', by decide, by decide⟩

theorem fails_writeChar {t : DateTime} {l : Locale} {c : Char} :
    Fails (t.writeChar l c) ↔ t.HasFarZone ∧ c ∈ zoneLetters := by
  unfold writeChar zoneLetters
  cases hcompound : compound? c with
  | some f =>
    obtain ⟨hc, d, hd, hoffset⟩ := mem_activeLetters_of_compound? hcompound
    simp only [fails_expand, fails_writeLetter]
    constructor
    · rintro ⟨_, -, hfar, -⟩
      exact ⟨hfar, List.mem_append_right _ hc⟩
    · rintro ⟨hfar, -⟩
      exact ⟨d, hd, hfar, hoffset⟩
  | none =>
    have hc : c ∉ ['c', 'r'] := by
      rintro hc
      simp only [List.mem_cons, List.not_mem_nil, or_false] at hc
      obtain rfl | rfl := hc <;> cases hcompound
    simp only [fails_writeLetter, List.mem_append, hc, or_false]

/-- A moment cannot be written exactly when its zone is far away and the format asks for the
    distance. -/
theorem fails_format {t : DateTime} {l : Locale} {f : List Char} :
    Fails (t.format l f) ↔ t.HasFarZone ∧ ∃ c ∈ activeLetters f, c ∈ zoneLetters := by
  unfold format
  simp only [fails_expand, fails_writeChar]
  constructor
  · rintro ⟨c, hc, hfar, hzone⟩
    exact ⟨hfar, c, hc, hzone⟩
  · rintro ⟨hfar, c, hc, hzone⟩
    exact ⟨c, hc, hfar, hzone⟩

/-! ## Distances -/

theorem exists_zone_asUtc (t : DateTime) : ∃ z, t.asUtc.zone = some z := by
  unfold asUtc
  split
  · exact ⟨_, rfl⟩
  · exact ⟨_, ‹_›⟩

theorem hasFarZone_asUtc {t : DateTime} : t.asUtc.HasFarZone ↔ t.HasFarZone := by
  unfold asUtc
  split
  · simp [HasFarZone, *, Zone.utc, dayMicros]
  · rfl

theorem isSome_of_offset?_asUtc {t : DateTime} {offset : Option Int}
    (h : t.asUtc.offset? = .ok offset) : offset.isSome := by
  obtain ⟨z, hz⟩ := t.exists_zone_asUtc
  simp only [offset?, hz] at h
  cases hoffset : z.offset? with
  | error e => simp [hoffset, Except.map] at h
  | ok n =>
    simp only [hoffset, Except.map, Except.ok.injEq] at h
    simp [← h]

/-- Two moments, those without a zone taken to be in UTC, have a distance unless one of the zones
    is far away. -/
theorem fails_distance?_asUtc {now t : DateTime} :
    Fails (now.asUtc.distance? t.asUtc) ↔ now.HasFarZone ∨ t.HasFarZone := by
  rw [← hasFarZone_asUtc (t := now), ← hasFarZone_asUtc (t := t), ← fails_offset?, ← fails_offset?]
  unfold distance?
  cases ha : now.asUtc.offset? with
  | error e => exact iff_of_true fails_error (.inl fails_error)
  | ok a =>
    cases hb : t.asUtc.offset? with
    | error e => exact iff_of_true fails_error (.inr fails_error)
    | ok b =>
      have hsome : a.isSome = b.isSome := by
        rw [isSome_of_offset?_asUtc ha, isSome_of_offset?_asUtc hb]
      refine iff_of_false ?_ (by simp)
      simp [bind, Except.bind, hsome, fails_pure]

end DateTime

/-! ## Timestamps -/

/-- The year at a number of microseconds after the epoch, less 1900. -/
def yearsOfMicros (micros : Int) : Int :=
  yearOfDay (Int.fdiv (micros + DateTime.epoch) dayMicros - 1) - 1900

/-- An instant whose year, less 1900, does not fit into thirty-two bits. -/
def BeyondYears (micros : Int) : Prop :=
  yearsOfMicros micros < -Int.pow 2 31 ∨ Int.pow 2 31 ≤ yearsOfMicros micros

/-- Cycles of four hundred years decide the year up to the cycle. -/
theorem yearOfDay_bounds (day : Int) :
    400 * (day / 146097) ≤ yearOfDay day ∧ yearOfDay day ≤ 400 * (day / 146097) + 501 := by
  have hyear : ∀ n, n ≤ 146097 → (Date.ofOrdinalParts n).1 ≤ 501 := by
    intro n hn
    unfold Date.ofOrdinalParts
    dsimp only
    split <;> dsimp only <;> omega
  unfold yearOfDay
  rw [Int.fdiv_eq_ediv_of_nonneg _ (by decide), Int.fmod_eq_emod_of_nonneg _ (by decide)]
  have := hyear ((day % 146097).toNat + 1) (by omega)
  omega

/-- Seconds beyond sixty-four bits are beyond the years too. -/
theorem beyondYears_of_seconds {micros : Int}
    (h : Int.fdiv micros 1000000 < -Int.pow 2 63 ∨ Int.pow 2 63 ≤ Int.fdiv micros 1000000) :
    BeyondYears micros := by
  rw [Int.fdiv_eq_ediv_of_nonneg _ (by decide)] at h
  have hepoch : DateTime.epoch = 62135683200000000 := by decide
  have hpow : Int.pow 2 63 = 9223372036854775808 ∧ Int.pow 2 31 = 2147483648 := by decide
  unfold BeyondYears yearsOfMicros dayMicros
  rw [Int.fdiv_eq_ediv_of_nonneg _ (by decide), hepoch]
  have := yearOfDay_bounds ((micros + 62135683200000000) / 86400000000 - 1)
  omega

/-- An instant outside the calendar counts as unreadable unless it is beyond the years. -/
theorem escapes_ofMicros {micros : Int} :
    Escapes (DateTime.ofMicros micros) ↔ BeyondYears micros := by
  unfold DateTime.ofMicros
  dsimp only
  split
  · next h => exact iff_of_true (by simp [Failure.isUnreadable]) (beyondYears_of_seconds h)
  · split
    · next h => exact iff_of_true (by simp [Failure.isUnreadable]) h
    · next h =>
      refine iff_of_false ?_ h
      split <;> simp [Failure.isUnreadable]

/-- The seconds of a timestamp, which counts milliseconds if it is large. -/
def secondsOf (x : Binary64) : Binary64 := if millisecondLimit.lt x then x.divNat 1000 else x

/-- A timestamp that is infinite or stands for an instant beyond the years. -/
def BeyondClock (x : Binary64) : Prop :=
  match secondsOf x with
  | .nan => False
  | .infinite _ => True
  | .finite negative m e =>
    BeyondYears (Binary64.signed negative
      ((wholeAndMicros m e).1 * 1000000 + (wholeAndMicros m e).2))

theorem escapes_ofTimestamp {x : Binary64} :
    Escapes (DateTime.ofTimestamp x) ↔ BeyondClock x := by
  have hseconds : (if millisecondLimit.lt x then x.divNat 1000 else x) = secondsOf x := rfl
  unfold DateTime.ofTimestamp BeyondClock
  rw [hseconds]
  cases secondsOf x with
  | nan => simp [Failure.isUnreadable]
  | infinite s => simp [Failure.isUnreadable]
  | finite negative m e => exact escapes_ofMicros

end RecordTemplate.Calendar
