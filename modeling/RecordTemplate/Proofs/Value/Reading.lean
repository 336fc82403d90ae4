/-
  RecordTemplate.Proofs.Value.Reading

  When a value cannot be read as a number or as a moment for a reason that is not taken for an
  unreadable value: an integer beyond the range of double precision (`IsBeyondDouble`) in either
  case, and for a moment a timestamp beyond the clock (`escapes_readMoment`).
-/

import RecordTemplate.Proofs.Calendar.Limits
import RecordTemplate.Proofs.Number.Range
import RecordTemplate.Proofs.Number.Reader
import RecordTemplate.Value.Reading

namespace RecordTemplate.Value

open RecordTemplate.Calendar RecordTemplate.Number RecordTemplate.Render RecordTemplate.Text

variable {v : Value}

/-! ## Values without a double precision number -/

/-- An integer beyond the range of double precision. -/
def IsBeyondDouble (v : Value) : Prop := ∃ n, v = .int n ∧ Binary64.overflow ≤ n.natAbs

/-- A decimal that signals that it is not a number. -/
def IsSignaling (v : Value) : Prop := ∃ negative payload, v = .decimal (.nan negative true payload)

/-- A text in the form of a number, with a separator among the white space around it. -/
def IsFalseNumber (v : Value) : Prop :=
  ∃ s, v = .text s ∧ isNumeric s.toList = true ∧ ∃ c ∈ s.toList, isSeparator c = true

theorem toBinary64?_of_isBeyondDouble (h : v.IsBeyondDouble) :
    v.toBinary64? = some (.error .integerTooLarge) := by
  obtain ⟨n, rfl, hn⟩ := h
  simp only [toBinary64?, Binary64.ofInt?_eq_none_iff.2 hn]

theorem toBinary64?_of_isSignaling (h : v.IsSignaling) :
    v.toBinary64? = some (.error .signalingNanToFloat) := by
  obtain ⟨negative, payload, rfl⟩ := h
  rfl

/-- A number has no double precision number next to it for one of two reasons. -/
theorem toBinary64?_eq_error {e : Failure} (h : v.toBinary64? = some (.error e)) :
    v.IsBeyondDouble ∧ e = .integerTooLarge ∨ v.IsSignaling ∧ e = .signalingNanToFloat := by
  cases v with
  | int n =>
    cases hn : Binary64.ofInt? n with
    | some x => simp [toBinary64?, hn] at h
    | none =>
      simp only [toBinary64?, hn, Option.some.injEq, Except.error.injEq] at h
      exact .inl ⟨⟨n, rfl, Binary64.ofInt?_eq_none_iff.1 hn⟩, h.symm⟩
  | decimal d =>
    cases d with
    | finite negative c k => simp [toBinary64?, Decimal.toBinary64] at h
    | infinite negative => simp [toBinary64?, Decimal.toBinary64] at h
    | nan negative signaling payload =>
      cases signaling with
      | false => simp [toBinary64?, Decimal.toBinary64] at h
      | true =>
        simp only [toBinary64?, Decimal.toBinary64, if_true, Option.some.injEq,
          Except.error.injEq] at h
        exact .inr ⟨⟨negative, payload, rfl⟩, h.symm⟩
  | _ => simp [toBinary64?] at h

theorem fails_of_toBinary64? {x : Except Failure Binary64} (h : v.toBinary64? = some x) :
    Fails x ↔ v.IsBeyondDouble ∨ v.IsSignaling := by
  constructor
  · rintro ⟨e, rfl⟩
    exact (toBinary64?_eq_error h).imp And.left And.left
  · rintro (hv | hv)
    · rw [toBinary64?_of_isBeyondDouble hv] at h
      cases h
      exact fails_error
    · rw [toBinary64?_of_isSignaling hv] at h
      cases h
      exact fails_error

/-- Only an integer is beyond double precision; what signals is taken for unreadable. -/
theorem escapes_of_toBinary64? {x : Except Failure Binary64} (h : v.toBinary64? = some x) :
    Escapes x ↔ v.IsBeyondDouble := by
  constructor
  · rintro ⟨e, rfl, he⟩
    obtain ⟨hv, -⟩ | ⟨-, rfl⟩ := toBinary64?_eq_error h
    · exact hv
    · cases he
  · intro hv
    rw [toBinary64?_of_isBeyondDouble hv] at h
    cases h
    exact ⟨_, rfl, rfl⟩

theorem not_isBeyondDouble (h : v.toBinary64? = none) : ¬ v.IsBeyondDouble := by
  intro hv
  rw [toBinary64?_of_isBeyondDouble hv] at h
  cases h

theorem not_isSignaling (h : v.toBinary64? = none) : ¬ v.IsSignaling := by
  intro hv
  rw [toBinary64?_of_isSignaling hv] at h
  cases h

/-! ## Readings -/

theorem strictNumber?_of_toBinary64? {x : Except Failure Binary64} (h : v.toBinary64? = some x) :
    v.strictNumber? = x.map some := by
  simp only [strictNumber?, h]

/-- Without a double precision number only a text that looks like a number is a failure, one that
    is taken for an unreadable value. -/
theorem strictNumber?_of_none (h : v.toBinary64? = none) :
    (Fails v.strictNumber? ↔ v.IsFalseNumber) ∧ ¬ Escapes v.strictNumber? := by
  cases v with
  | text s =>
    have hfalse : (text s).IsFalseNumber ↔
        isNumeric s.toList = true ∧ readFloat? s.toList = none := by
      simp only [IsFalseNumber, text.injEq, exists_eq_left']
      exact and_congr_right fun hnumeric => (readFloat?_of_isNumeric hnumeric).symm
    simp only [strictNumber?, h, hfalse]
    cases isNumeric s.toList with
    | false => simp
    | true => cases readFloat? s.toList <;> simp [Failure.isUnreadable]
  | _ => simp [strictNumber?, h, IsFalseNumber]

/-- The strict reading fails on numbers out of reach and on texts that only look like one. -/
theorem fails_strictNumber? :
    Fails v.strictNumber? ↔ v.IsBeyondDouble ∨ v.IsSignaling ∨ v.IsFalseNumber := by
  cases hx : v.toBinary64? with
  | some x =>
    have hfalse : ¬ v.IsFalseNumber := by
      rintro ⟨s, rfl, -⟩
      cases hx
    rw [strictNumber?_of_toBinary64? hx, fails_map, fails_of_toBinary64? hx, or_iff_left hfalse]
  | none =>
    rw [or_iff_right (not_isBeyondDouble hx), or_iff_right (not_isSignaling hx)]
    exact (strictNumber?_of_none hx).1

theorem escapes_strictNumber? : Escapes v.strictNumber? ↔ v.IsBeyondDouble := by
  cases hx : v.toBinary64? with
  | some x => rw [strictNumber?_of_toBinary64? hx, escapes_map, escapes_of_toBinary64? hx]
  | none => exact iff_of_false (strictNumber?_of_none hx).2 (not_isBeyondDouble hx)

theorem readNumber_of_toBinary64? {x : Except Failure Binary64} (h : v.toBinary64? = some x) :
    v.readNumber = x := by
  unfold readNumber
  split
  · cases h
  · cases h
  · rw [h]

theorem escapes_readNumber : Escapes v.readNumber ↔ v.IsBeyondDouble := by
  cases hx : v.toBinary64? with
  | some x => rw [readNumber_of_toBinary64? hx, escapes_of_toBinary64? hx]
  | none =>
    refine iff_of_false ?_ (not_isBeyondDouble hx)
    unfold readNumber
    split
    · simp [Failure.isUnreadable]
    · simp [Failure.isUnreadable]
    · rw [hx]
      dsimp only
      repeat' split
      all_goals simp [Failure.isUnreadable]

/-- Only what is not a number as a value is so in double precision. -/
theorem toBinary64?_eq_nan (h : v.toBinary64? = some (.ok .nan)) :
    v = .float .nan ∨ ∃ negative payload, v = .decimal (.nan negative false payload) := by
  cases v with
  | int n =>
    cases hn : Binary64.ofInt? n with
    | none => simp [toBinary64?, hn] at h
    | some x =>
      simp only [toBinary64?, hn, Option.some.injEq, Except.ok.injEq] at h
      exact absurd (hn.trans (congrArg some h)) (Binary64.ofInt?_ne_nan n)
  | float x =>
    simp only [toBinary64?, Option.some.injEq, Except.ok.injEq] at h
    exact .inl (by rw [h])
  | decimal d =>
    cases d with
    | finite negative c k =>
      simp only [toBinary64?, Decimal.toBinary64, Option.some.injEq, Except.ok.injEq] at h
      exact absurd h (Binary64.ofDecimal_ne_nan negative c k)
    | infinite negative => simp [toBinary64?, Decimal.toBinary64] at h
    | nan negative signaling payload =>
      cases signaling with
      | false => exact .inr ⟨negative, payload, rfl⟩
      | true => simp [toBinary64?, Decimal.toBinary64] at h
  | _ => simp [toBinary64?] at h

/-- What is read as no number has a text, and so has an integer beyond double precision. -/
theorem render_ne_empty (h : v.IsBeyondDouble ∨ v.readNumber = .ok .nan) : v.render ≠ "" := by
  obtain ⟨n, rfl, -⟩ | h := h
  · have hrender : (int n).render = String.ofList (intText n) := rfl
    rw [hrender, Ne, String.ofList_eq_empty_iff]
    exact intText_ne_nil n
  · intro hrender
    cases hx : v.toBinary64? with
    | some x =>
      rw [readNumber_of_toBinary64? hx] at h
      subst h
      obtain rfl | ⟨negative, payload, rfl⟩ := toBinary64?_eq_nan hx
      · have htext : (Value.float .nan).render = String.ofList Binary64.nan.text := rfl
        rw [htext, String.ofList_eq_empty_iff] at hrender
        cases hrender
      · have htext : (decimal (.nan negative false payload)).render =
            String.ofList (Decimal.nan negative false payload).text := rfl
        rw [htext, String.ofList_eq_empty_iff] at hrender
        simp [Decimal.text] at hrender
    | none =>
      unfold readNumber at h
      split at h
      · cases h
      · cases h
      · have hblank : trim ("" : String).toList = [] := rfl
        simp only [hx, hrender, hblank, if_true] at h
        cases h

/-! ## Moments -/

/-- A value in which a moment is looked for in vain, for a reason other than that it cannot be
    read: an integer beyond double precision, a timestamp beyond the clock, or a text whose free
    form needs a fraction of too many digits. -/
def LacksMoment (today : Date) (v : Value) : Prop :=
  v.IsBeyondDouble ∨ (∃ x, v.strictNumber? = .ok (some x) ∧ BeyondClock x) ∨
    v.readMoment today = .error .divisionImpossible

/-- A number is a timestamp. -/
theorem readMoment_of_strictNumber? {today : Date} {x : Binary64}
    (h : v.strictNumber? = .ok (some x)) : v.readMoment today = DateTime.ofTimestamp x := by
  unfold readMoment
  split
  · cases h
  · cases h
  · cases h
  · cases h
  · rw [h]
    rfl

/-- Why a value has no moment: it is unreadable, the strict reading or the timestamp fails, or a
    fraction has too many digits. -/
theorem readMoment_eq_error {today : Date} {e : Failure} (h : v.readMoment today = .error e) :
    e.isUnreadable ∨ v.strictNumber? = .error e ∨
      (∃ x, v.strictNumber? = .ok (some x) ∧ DateTime.ofTimestamp x = .error e) ∨
      e = .divisionImpossible := by
  unfold readMoment at h
  split at h
  · cases h
  · cases h
  · cases h
    exact .inl rfl
  · cases h
    exact .inl rfl
  · cases hstrict : v.strictNumber? with
    | error f =>
      simp only [hstrict, bind, Except.bind] at h
      cases h
      exact .inr (.inl rfl)
    | ok number =>
      simp only [hstrict, bind, Except.bind] at h
      cases number with
      | some x => exact .inr (.inr (.inl ⟨x, rfl, h⟩))
      | none =>
        dsimp only at h
        split at h
        · cases h
          exact .inl rfl
        · split at h <;> cases h
          · exact .inl rfl
          · exact .inr (.inr (.inr rfl))

theorem escapes_readMoment {today : Date} :
    Escapes (v.readMoment today) ↔ v.LacksMoment today := by
  constructor
  · rintro ⟨e, h, he⟩
    obtain hkind | hstrict | ⟨x, hx, hclock⟩ | rfl := readMoment_eq_error h
    · rw [hkind] at he
      cases he
    · exact .inl (escapes_strictNumber?.1 ⟨e, hstrict, he⟩)
    · exact .inr (.inl ⟨x, hx, escapes_ofTimestamp.1 ⟨e, hclock, he⟩⟩)
    · exact .inr (.inr h)
  · rintro (⟨n, rfl, hn⟩ | ⟨x, hx, hclock⟩ | h)
    · have hstrict := strictNumber?_of_toBinary64? (toBinary64?_of_isBeyondDouble ⟨n, rfl, hn⟩)
      have hread : (int n).readMoment today = .error .integerTooLarge := by
        simp only [readMoment, hstrict]
        rfl
      exact ⟨_, hread, rfl⟩
    · rw [readMoment_of_strictNumber? hx]
      exact escapes_ofTimestamp.2 hclock
    · exact ⟨_, h, rfl⟩

end RecordTemplate.Value
