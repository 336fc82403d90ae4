/-
  RecordTemplate.Proofs.Number.Reader

  Texts in the form of a number (`IsNumberText`).  Whether a text is one number and white space
  is asked of all white space, but the reader skips less: a text that is numeric is read as no
  number exactly when one of the four information separators of ASCII stands in it
  (`readFloat?_of_isNumeric`).
-/

import Mathlib.Data.List.TakeDrop
import Mathlib.Data.List.TakeWhile
import RecordTemplate.Number.Reader
import RecordTemplate.Proofs.Text.Search

namespace RecordTemplate.Number

open RecordTemplate.Text

/-! ## The grammar of numbers -/

/-- A sign, or nothing. -/
def IsSign (s : List Char) : Prop := s = [] ∨ s = ['+'] ∨ s = ['-']

def IsDigits (s : List Char) : Prop := ∀ c ∈ s, isDecimal c = true

/-- Digits with an optional point among, before or after them. -/
def IsMantissa (s : List Char) : Prop :=
  ∃ whole fraction, IsDigits whole ∧ IsDigits fraction ∧ (whole ≠ [] ∨ fraction ≠ []) ∧
    (s = whole ∧ fraction = [] ∨ s = whole ++ '.' :: fraction)

/-- The letter of an exponent with a sign and digits, or nothing. -/
def IsExponent (s : List Char) : Prop :=
  s = [] ∨ ∃ c sign ds, (c = 'e' ∨ c = 'E') ∧ IsSign sign ∧ IsDigits ds ∧ ds ≠ [] ∧
    s = c :: (sign ++ ds)

/-- A number without white space around it. -/
def IsNumberText (s : List Char) : Prop :=
  ∃ sign mantissa exponent, IsSign sign ∧ IsMantissa mantissa ∧ IsExponent exponent ∧
    s = sign ++ (mantissa ++ exponent)

/-! ## Recognising a number -/

theorem span_spec {p : Char → Bool} {s span rest : List Char} (h : s.span p = (span, rest)) :
    (∀ c ∈ span, p c = true) ∧ s = span ++ rest := by
  rw [List.span_eq_takeWhile_dropWhile] at h
  cases h
  exact ⟨fun c hc => List.mem_takeWhile_imp hc, List.takeWhile_append_dropWhile.symm⟩

theorem spanExponent_spec {s exponent rest : List Char}
    (h : spanExponent s = (exponent, rest)) : IsExponent exponent ∧ s = exponent ++ rest := by
  unfold spanExponent at h
  split at h
  · next c t =>
    split at h
    · next hc =>
      split at h
      next sign u hsplit =>
      have hsign : IsSign sign ∧ t = sign ++ u := by
        split at hsplit <;> cases hsplit
        · exact ⟨.inr (.inl rfl), rfl⟩
        · exact ⟨.inr (.inr rfl), rfl⟩
        · exact ⟨.inl rfl, rfl⟩
      obtain ⟨hsign, rfl⟩ := hsign
      split at h
      next ds tail hspan =>
      obtain ⟨hdigits, rfl⟩ := span_spec hspan
      split at h <;> cases h
      · exact ⟨.inl rfl, rfl⟩
      · next hne => exact ⟨.inr ⟨c, sign, ds, hc, hsign, hdigits, hne, rfl⟩, by simp⟩
    · cases h
      exact ⟨.inl rfl, rfl⟩
  · cases h
    exact ⟨.inl rfl, rfl⟩

theorem spanMantissa?_spec {s mantissa rest : List Char}
    (h : spanMantissa? s = some (mantissa, rest)) : IsMantissa mantissa ∧ s = mantissa ++ rest := by
  unfold spanMantissa? at h
  split at h
  · next t hspan =>
    -- the point comes first
    obtain ⟨-, rfl⟩ := span_spec hspan
    split at h
    · cases h
    · next ds tail hne hfraction =>
      cases h
      obtain ⟨hdigits, rfl⟩ := span_spec hfraction
      have hds : ds ≠ [] := hne
      exact ⟨⟨[], ds, by simp [IsDigits], hdigits, .inr hds, .inr rfl⟩, by simp⟩
  · cases h
  · next whole t hne hspan =>
    obtain ⟨hwhole, rfl⟩ := span_spec hspan
    obtain ⟨ds, tail, hspan'⟩ : ∃ ds tail, spanDigits t = (ds, tail) := ⟨_, _, rfl⟩
    obtain ⟨hdigits, rfl⟩ := span_spec hspan'
    rw [hspan'] at h
    cases h
    exact ⟨⟨whole, ds, hwhole, hdigits, .inl hne, .inr rfl⟩, by simp⟩
  · next whole t _ hne _ hspan =>
    obtain ⟨hwhole, rfl⟩ := span_spec hspan
    cases h
    exact ⟨⟨mantissa, [], hwhole, by simp [IsDigits], .inl hne, .inl ⟨rfl, rfl⟩⟩, rfl⟩

/-- What is found at the beginning of a text is white space and a number. -/
theorem spanNumber?_spec {s number rest : List Char} (h : spanNumber? s = some (number, rest)) :
    ∃ blanks core, (∀ c ∈ blanks, isSpace c = true) ∧ IsNumberText core ∧
      s = blanks ++ (core ++ rest) := by
  unfold spanNumber? at h
  split at h
  next blanks t hspan =>
  obtain ⟨hblanks, rfl⟩ := span_spec hspan
  split at h
  next sign u hsplit =>
  have hsign : IsSign sign ∧ t = sign ++ u := by
    split at hsplit <;> cases hsplit
    · exact ⟨.inr (.inl rfl), rfl⟩
    · exact ⟨.inr (.inr rfl), rfl⟩
    · exact ⟨.inl rfl, rfl⟩
  obtain ⟨hsign, rfl⟩ := hsign
  obtain ⟨⟨mantissa, tail⟩, hfound, hnumber⟩ := Option.map_eq_some_iff.1 h
  obtain ⟨hmantissa, rfl⟩ := spanMantissa?_spec hfound
  obtain ⟨exponent, tail', hspan'⟩ : ∃ exponent tail', spanExponent tail = (exponent, tail') :=
    ⟨_, _, rfl⟩
  obtain ⟨hexponent, rfl⟩ := spanExponent_spec hspan'
  dsimp only at hnumber
  rw [hspan'] at hnumber
  cases hnumber
  exact ⟨blanks, sign ++ (mantissa ++ exponent), hblanks,
    ⟨sign, mantissa, exponent, hsign, hmantissa, hexponent, rfl⟩, by simp⟩

/-! ## Reading a number -/

theorem spanDigits_append {ds rest : List Char} (hds : IsDigits ds)
    (hrest : ∀ c, rest.head? = some c → isDecimal c = false) :
    spanDigits (ds ++ rest) = (ds, rest) := by
  rw [spanDigits, List.span_eq_takeWhile_dropWhile, takeWhile_span hds hrest,
    dropWhile_span hds hrest]

theorem takeSign_spec {s rest : List Char} {negative : Bool}
    (h : Decimal.takeSign s = (negative, rest)) : ∃ sign, IsSign sign ∧ s = sign ++ rest := by
  unfold Decimal.takeSign at h
  split at h <;> cases h
  · exact ⟨['-'], .inr (.inr rfl), rfl⟩
  · exact ⟨['+'], .inr (.inl rfl), rfl⟩
  · exact ⟨[], .inl rfl, rfl⟩

/-- A sign is taken, and only one. -/
theorem takeSign_append {sign rest : List Char} (hsign : IsSign sign)
    (hrest : ∀ c, rest.head? = some c → c ≠ '+' ∧ c ≠ '-') :
    ∃ negative, Decimal.takeSign (sign ++ rest) = (negative, rest) := by
  obtain rfl | rfl | rfl := hsign
  · refine ⟨false, ?_⟩
    rw [List.nil_append]
    unfold Decimal.takeSign
    split
    · exact absurd rfl (hrest _ rfl).2
    · exact absurd rfl (hrest _ rfl).1
    · rfl
  · exact ⟨false, rfl⟩
  · exact ⟨true, rfl⟩

theorem ne_of_isDecimal {c : Char} (h : isDecimal c = true) : c ≠ '+' ∧ c ≠ '-' := by
  constructor <;> rintro rfl <;> revert h <;> decide

theorem isDecimal_head_exponent {s : List Char} (h : IsExponent s) :
    ∀ c, s.head? = some c → isDecimal c = false := by
  obtain rfl | ⟨c, sign, ds, hc, -, -, -, rfl⟩ := h
  · simp
  · rintro d ⟨⟩
    obtain rfl | rfl := hc <;> decide

theorem not_isExponent_point {s : List Char} : ¬ IsExponent ('.' :: s) := by
  rintro (h | ⟨c, sign, ds, rfl | rfl, -, -, -, h⟩) <;> cases h

theorem IsDigits.head {ds rest : List Char} (hds : IsDigits ds) (hne : ds ≠ []) :
    ∀ c, (ds ++ rest).head? = some c → isDecimal c = true := by
  cases ds with
  | nil => exact absurd rfl hne
  | cons d ds =>
    rintro c ⟨⟩
    exact hds d (List.mem_cons_self ..)

theorem readExponent?_isSome_iff {s : List Char} :
    (Decimal.readExponent? s).isSome = true ↔ IsExponent s := by
  unfold Decimal.readExponent?
  constructor
  · intro h
    split at h
    · exact .inl rfl
    · next c t =>
      split at h
      · next hc =>
        split at h
        next negative ds htake =>
        obtain ⟨sign, hsign, rfl⟩ := takeSign_spec htake
        split at h
        · next hds =>
          exact .inr ⟨c, sign, ds, hc, hsign, by simpa [IsDigits] using hds.2, hds.1, rfl⟩
        · cases h
      · cases h
  · rintro (rfl | ⟨c, sign, ds, hc, hsign, hds, hne, rfl⟩)
    · rfl
    · have hhead : ∀ d, ds.head? = some d → d ≠ '+' ∧ d ≠ '-' := by
        intro d hd
        exact ne_of_isDecimal (hds d (List.mem_of_mem_head? hd))
      obtain ⟨negative, htake⟩ := takeSign_append hsign hhead
      have hall : ds.all isDecimal = true := List.all_eq_true.2 hds
      simp only [hc, if_true, htake, hne, hall, ne_eq, not_false_eq_true, and_self,
        Option.isSome_some]

/-- A text is read as a finite number exactly when it is one. -/
theorem readFinite?_isSome_iff {s : List Char} :
    (Decimal.readFinite? s).isSome = true ↔ IsNumberText s := by
  unfold Decimal.readFinite?
  constructor
  · intro h
    -- what each of the readers has taken is the part of its name
    split at h
    next negative t htake =>
    obtain ⟨sign, hsign, rfl⟩ := takeSign_spec htake
    split at h
    next whole u hspan =>
    obtain ⟨hwhole, rfl⟩ := span_spec hspan
    split at h
    next fraction tail hpoint =>
    have hmantissa :
        IsDigits fraction ∧ (u = tail ∧ fraction = [] ∨ u = '.' :: fraction ++ tail) := by
      split at hpoint
      · obtain ⟨hfraction, rfl⟩ := span_spec hpoint
        exact ⟨hfraction, .inr rfl⟩
      · cases hpoint
        exact ⟨by simp [IsDigits], .inl ⟨rfl, rfl⟩⟩
    obtain ⟨hfraction, hu⟩ := hmantissa
    split at h
    · cases h
    · next hdigits =>
      rw [Option.isSome_map] at h
      have hexponent := readExponent?_isSome_iff.1 h
      have hne : whole ≠ [] ∨ fraction ≠ [] := not_and_or.1 hdigits
      obtain ⟨rfl, rfl⟩ | rfl := hu
      · exact ⟨sign, whole, u, hsign, ⟨whole, [], hwhole, hfraction, hne, .inl ⟨rfl, rfl⟩⟩,
          hexponent, rfl⟩
      · exact ⟨sign, whole ++ '.' :: fraction, tail, hsign,
          ⟨whole, fraction, hwhole, hfraction, hne, .inr rfl⟩, hexponent, by simp⟩
  · rintro ⟨sign, mantissa, exponent, hsign, ⟨whole, fraction, hwhole, hfraction, hne, hform⟩,
      hexponent, rfl⟩
    have hread := readExponent?_isSome_iff.2 hexponent
    have hstop := isDecimal_head_exponent hexponent
    have hsome : ¬(whole = [] ∧ fraction = []) := not_and_or.2 hne
    -- without a point the digits end at the exponent, which begins with none
    obtain ⟨rfl, rfl⟩ | rfl := hform
    · have hmantissa : mantissa ≠ [] := by simpa using hne
      obtain ⟨negative, htake⟩ :
          ∃ negative, Decimal.takeSign (sign ++ (mantissa ++ exponent)) =
            (negative, mantissa ++ exponent) :=
        takeSign_append hsign fun c hc => ne_of_isDecimal (hwhole.head hmantissa c hc)
      simp only [htake, spanDigits_append hwhole hstop]
      split
      · exact absurd hexponent not_isExponent_point
      · rw [if_neg hsome, Option.isSome_map]
        exact hread
    · have hpoint : ∀ c, ('.' :: (fraction ++ exponent)).head? = some c → isDecimal c = false := by
        rintro c ⟨⟩
        decide
      obtain ⟨negative, htake⟩ :
          ∃ negative, Decimal.takeSign (sign ++ (whole ++ '.' :: (fraction ++ exponent))) =
            (negative, whole ++ '.' :: (fraction ++ exponent)) := by
        refine takeSign_append hsign fun c hc => ?_
        cases whole with
        | nil =>
          cases hc
          decide
        | cons d ds => exact ne_of_isDecimal (hwhole.head (List.cons_ne_nil d ds) c hc)
      rw [List.append_assoc, List.cons_append]
      simp only [htake, spanDigits_append hwhole hpoint, spanDigits_append hfraction hstop,
        if_neg hsome, Option.isSome_map]
      exact hread

/-! ## Characters -/

/-- The four information separators of ASCII.  They are white space, but not around a number. -/
def isSeparator (c : Char) : Bool := 0x1C ≤ c.toNat && c.toNat ≤ 0x1F

theorem isNumberSpace_iff {c : Char} (h : isSpace c = true) :
    isNumberSpace c = true ↔ isSeparator c = false := by
  have hcodes : ∀ n ∈ spaceCodes, (n = 32 ∨ 0x9 ≤ n ∧ n ≤ 0xD ∨ ¬ n < 0x80) ↔
      ¬ (0x1C ≤ n ∧ n ≤ 0x1F) := by
    decide
  have hblank : c = ' ' ↔ c.toNat = 32 := by
    rw [← Char.toNat_inj]
    rfl
  have hcode : c.toNat ∈ spaceCodes := by simpa [isSpace] using h
  simpa [isNumberSpace, isAsciiSpace, isAscii, isSeparator, h, hblank, or_assoc] using
    hcodes _ hcode

theorem decimalDigit?_lt {c : Char} {d : Nat} (h : decimalDigit? c = some d) : d < 10 := by
  unfold decimalDigit? at h
  split at h
  · unfold asciiDigit? isAsciiDigit at h
    split at h <;> cases h
    next hdigit =>
    simp only [Bool.and_eq_true, decide_eq_true_eq] at hdigit
    have hle : c.toNat ≤ 57 := UInt32.le_iff_toNat_le.1 (Char.le_def.1 hdigit.2)
    omega
  · obtain ⟨r, -, rfl⟩ := Option.map_eq_some_iff.1 h
    exact Nat.mod_lt _ (by decide)

theorem asciiDigitOf_of_not_isDecimal {c : Char} (h : isDecimal c = false) :
    asciiDigitOf c = c := by
  rw [asciiDigitOf, Option.isSome_eq_false_iff.1 h |> Option.isNone_iff_eq_none.1]

theorem isDecimal_asciiDigitOf (c : Char) : isDecimal (asciiDigitOf c) = isDecimal c := by
  have hascii : ∀ d, d < 10 → isDecimal (Char.ofNat (0x30 + d)) = true := by decide
  cases hdigit : decimalDigit? c with
  | none => rw [asciiDigitOf, hdigit]
  | some d =>
    have hc : isDecimal c = true := by rw [isDecimal, hdigit]; rfl
    rw [hc, asciiDigitOf, hdigit]
    exact hascii d (decimalDigit?_lt hdigit)

theorem IsDigits.map {s : List Char} (h : IsDigits s) : IsDigits (s.map asciiDigitOf) := by
  intro c hc
  obtain ⟨d, hd, rfl⟩ := List.mem_map.1 hc
  rw [isDecimal_asciiDigitOf]
  exact h d hd

/-- A number stays one when its digits are put into ASCII. -/
theorem IsNumberText.map {s : List Char} (h : IsNumberText s) :
    IsNumberText (s.map asciiDigitOf) := by
  have hmark : ∀ c ∈ ['+', '-', '.', 'e', 'E'], asciiDigitOf c = c := by decide
  have hsigned : ∀ sign, IsSign sign → sign.map asciiDigitOf = sign := by
    rintro _ (rfl | rfl | rfl)
    all_goals decide
  obtain ⟨sign, mantissa, exponent, hsign, ⟨whole, fraction, hwhole, hfraction, hne, hform⟩,
    hexponent, rfl⟩ := h
  refine ⟨sign, mantissa.map asciiDigitOf, exponent.map asciiDigitOf, hsign, ?_, ?_, ?_⟩
  · refine ⟨whole.map asciiDigitOf, fraction.map asciiDigitOf, hwhole.map, hfraction.map,
      by simpa using hne, ?_⟩
    obtain ⟨rfl, rfl⟩ | rfl := hform
    · exact .inl ⟨rfl, rfl⟩
    · exact .inr (by simp [hmark])
  · obtain rfl | ⟨c, sign', ds, hc, hsign', hds, hds', rfl⟩ := hexponent
    · exact .inl rfl
    · refine .inr ⟨c, sign', ds.map asciiDigitOf, hc, hsign', hds.map, by simpa using hds', ?_⟩
      have hletter : asciiDigitOf c = c := by
        obtain rfl | rfl := hc
        all_goals decide
      rw [List.map_cons, List.map_append, hletter, hsigned sign' hsign']
  · rw [List.map_append, List.map_append, hsigned sign hsign]

/-- A number is made of digits and a few marks. -/
theorem IsNumberText.mem {s : List Char} (h : IsNumberText s) :
    ∀ c ∈ s, isDecimal c = true ∨ c ∈ ['+', '-', '.', 'e', 'E'] := by
  have hsigned : ∀ sign, IsSign sign → ∀ c ∈ sign, c ∈ ['+', '-', '.', 'e', 'E'] := by
    rintro _ (rfl | rfl | rfl) <;> simp
  obtain ⟨sign, mantissa, exponent, hsign, ⟨whole, fraction, hwhole, hfraction, -, hform⟩,
    hexponent, rfl⟩ := h
  intro c hc
  obtain hc | hc | hc : c ∈ sign ∨ c ∈ mantissa ∨ c ∈ exponent := by simpa using hc
  · exact .inr (hsigned sign hsign c hc)
  · obtain ⟨rfl, -⟩ | rfl := hform
    · exact .inl (hwhole c hc)
    · obtain hc | rfl | hc : c ∈ whole ∨ c = '.' ∨ c ∈ fraction := by simpa using hc
      · exact .inl (hwhole c hc)
      · exact .inr (by decide)
      · exact .inl (hfraction c hc)
  · obtain rfl | ⟨letter, sign', ds, hletter, hsign', hds, -, rfl⟩ := hexponent
    · cases hc
    · obtain rfl | hc | hc : c = letter ∨ c ∈ sign' ∨ c ∈ ds := by simpa using hc
      · obtain rfl | rfl := hletter
        · exact .inr (by decide)
        · exact .inr (by decide)
      · exact .inr (hsigned sign' hsign' c hc)
      · exact .inl (hds c hc)

theorem isSeparator_of_isNumberSpace {c : Char} (h : isNumberSpace c = true) :
    isSeparator c = false := by
  have hblank : c = ' ' ↔ c.toNat = 32 := by
    rw [← Char.toNat_inj]
    rfl
  simp only [isNumberSpace, isAsciiSpace, isAscii, Bool.or_eq_true, Bool.and_eq_true,
    beq_iff_eq, hblank, decide_eq_true_eq, Bool.not_eq_true', decide_eq_false_iff_not] at h
  simp only [isSeparator, Bool.and_eq_false_iff, decide_eq_false_iff_not]
  omega

theorem isSpace_of_isNumberSpace {c : Char} (h : isNumberSpace c = true) : isSpace c = true := by
  simp only [isNumberSpace, Bool.or_eq_true, Bool.and_eq_true] at h
  obtain hascii | ⟨-, hspace⟩ := h
  · simp only [isAsciiSpace, Bool.or_eq_true, Bool.and_eq_true, beq_iff_eq,
      decide_eq_true_eq] at hascii
    obtain rfl | ⟨hlow, hhigh⟩ := hascii
    · rfl
    · have hcodes : ∀ n, n ≤ 0xD → 0x9 ≤ n → spaceCodes.contains n = true := by decide
      exact hcodes _ hhigh hlow
  · exact hspace

theorem isSpace_of_isSeparator {c : Char} (h : isSeparator c = true) : isSpace c = true := by
  have hcodes : ∀ n, n ≤ 0x1F → 0x1C ≤ n → spaceCodes.contains n = true := by decide
  simp only [isSeparator, Bool.and_eq_true, decide_eq_true_eq] at h
  exact hcodes _ h.2 h.1

theorem isSpace_of_isDecimal {c : Char} (h : isDecimal c = true) : isSpace c = false := by
  have hcodes : ∀ n ∈ spaceCodes, isDecimal (Char.ofNat n) = false := by decide
  refine Bool.eq_false_iff.2 fun hspace => ?_
  have hcode : c.toNat ∈ spaceCodes := by simpa [isSpace] using hspace
  have hdecimal := hcodes _ hcode
  rw [Char.ofNat_toNat, h] at hdecimal
  cases hdecimal

/-- Neither the digits nor the marks of a number are white space. -/
theorem IsNumberText.isSpace_eq_false {s : List Char} (h : IsNumberText s) {c : Char}
    (hc : c ∈ s) : isSpace c = false := by
  have hmarks : ∀ c ∈ ['+', '-', '.', 'e', 'E'], isSpace c = false := by decide
  exact (h.mem c hc).elim isSpace_of_isDecimal (hmarks c)

theorem isSeparator_of_isSpace {c : Char} (h : isSpace c = false) : isSeparator c = false :=
  Bool.eq_false_iff.2 fun hseparator => Bool.eq_false_iff.1 h (isSpace_of_isSeparator hseparator)

/-- No separator is a capital letter. -/
theorem toLower_of_isSeparator {c : Char} (h : isSeparator c = true) : c.toLower = c := by
  simp only [isSeparator, Bool.and_eq_true, decide_eq_true_eq] at h
  unfold Char.toLower
  split
  · next hcapital =>
    have hlow : 0x41 ≤ c.toNat := UInt32.le_iff_toNat_le.1 hcapital.1
    omega
  · rfl

/-! ## Written integers -/

theorem digits_ne_nil (n : Nat) : digits n ≠ [] := Nat.toDigits_ne_nil

theorem intText_ne_nil (n : Int) : intText n ≠ [] := by
  unfold intText
  split
  · exact List.cons_ne_nil _ _
  · exact digits_ne_nil _

/-! ## Underscores -/

/-- Only underscores are dropped. -/
theorem mem_of_dropUnderscores? {last : Char} {s t : List Char}
    (h : dropUnderscores? last s = some t) : ∀ c ∈ s, c = '_' ∨ c ∈ t := by
  induction s generalizing last t with
  | nil => simp
  | cons d s ih =>
    rw [dropUnderscores?] at h
    intro c hc
    split at h
    · next hd =>
      split at h
      · obtain rfl | hc := List.mem_cons.1 hc
        · exact .inl hd
        · exact ih h c hc
      · cases h
    · split at h
      · cases h
      · obtain ⟨u, hu, rfl⟩ := Option.map_eq_some_iff.1 h
        obtain rfl | hc := List.mem_cons.1 hc
        · exact .inr (List.mem_cons_self ..)
        · exact (ih hu c hc).imp_right (List.mem_cons_of_mem _)

/-- Without underscores a text is left as it is. -/
theorem dropUnderscores?_of_not_mem {last : Char} {s : List Char} (hlast : last ≠ '_')
    (hs : '_' ∉ s) : dropUnderscores? last s = some s := by
  induction s generalizing last with
  | nil => simp [dropUnderscores?, hlast]
  | cons c s ih =>
    simp only [List.mem_cons, not_or] at hs
    rw [dropUnderscores?, if_neg (Ne.symm hs.1), if_neg (fun h => hlast h.1),
      ih (Ne.symm hs.1) hs.2, Option.map_some]

/-! ## Trimmed texts -/

/-- What is read as a number has no separator in it. -/
theorem isSeparator_of_readPlainFloat? {s : List Char} {x : Binary64}
    (h : readPlainFloat? s = some x) : ∀ c ∈ s, isSeparator c = false := by
  unfold readPlainFloat? at h
  split at h
  · cases h
  · next t hdrop =>
    have hclean : ∀ c ∈ t, isSeparator c = false := by
      split at h
      · next hfinite =>
        have ht := readFinite?_isSome_iff.1 (Option.isSome_iff_exists.2 ⟨_, hfinite⟩)
        intro c hc
        exact isSeparator_of_isSpace (ht.isSpace_eq_false hc)
      · split at h
        next negative u htake =>
        obtain ⟨sign, hsign, rfl⟩ := takeSign_spec htake
        have hword : u.map Char.toLower ∈ ["inf".toList, "infinity".toList, "nan".toList] := by
          dsimp only at h
          split at h
          · next hinf => simpa [or_assoc] using Or.inl hinf
          · split at h
            · next hnan => simp [hnan]
            · cases h
        have hletters : ∀ w ∈ ["inf".toList, "infinity".toList, "nan".toList], ∀ c ∈ w,
            isSeparator c = false := by
          decide
        have hsigned : ∀ sign, IsSign sign → ∀ c ∈ sign, isSeparator c = false := by
          rintro _ (rfl | rfl | rfl) <;> decide
        intro c hc
        obtain hc | hc := List.mem_append.1 hc
        · exact hsigned sign hsign c hc
        · refine Bool.eq_false_iff.2 fun hseparator => ?_
          have hmem := List.mem_map_of_mem (f := Char.toLower) hc
          rw [toLower_of_isSeparator hseparator] at hmem
          exact Bool.eq_false_iff.1 (hletters _ hword c hmem) hseparator
    intro c hc
    obtain rfl | hc := mem_of_dropUnderscores? hdrop c hc
    · decide
    · exact hclean c hc

/-- A number is read. -/
theorem readPlainFloat?_isSome {s : List Char} (h : IsNumberText s) :
    (readPlainFloat? s).isSome = true := by
  have hunderscore : '_' ∉ s := by
    intro hmem
    obtain hmem | hmem := h.mem '_' hmem <;> revert hmem <;> decide
  obtain ⟨⟨negative, c, e⟩, hfinite⟩ := Option.isSome_iff_exists.1 (readFinite?_isSome_iff.2 h)
  rw [readPlainFloat?, dropUnderscores?_of_not_mem (by decide) hunderscore]
  simp only [hfinite, Option.isSome_some]

/-- A trimmed text is the text without what stands around it. -/
theorem trimBy_spec {p : Char → Bool} (s : List Char) :
    ∃ before after, (∀ c ∈ before, p c = true) ∧ (∀ c ∈ after, p c = true) ∧
      s = before ++ (trimBy p s ++ after) := by
  let t := s.dropWhile p
  refine ⟨s.takeWhile p, (t.reverse.takeWhile p).reverse, fun c hc => List.mem_takeWhile_imp hc,
    fun c hc => List.mem_takeWhile_imp (List.mem_reverse.1 hc), ?_⟩
  have ht : trimRightBy p t ++ (t.reverse.takeWhile p).reverse = t := by
    rw [trimRightBy, ← List.reverse_append, List.takeWhile_append_dropWhile, List.reverse_reverse]
  rw [trimBy, ht, List.takeWhile_append_dropWhile]

theorem IsNumberText.ne_nil {s : List Char} (h : IsNumberText s) : s ≠ [] := by
  rintro rfl
  revert h
  rw [← readFinite?_isSome_iff]
  decide

/-- Without separators the white space around a number is skipped. -/
theorem trimNumber_padded {before number after : List Char}
    (hbefore : ∀ c ∈ before, isNumberSpace c = true) (hnumber : IsNumberText number)
    (hafter : ∀ c ∈ after, isNumberSpace c = true) :
    trimNumber (before ++ (number ++ after)) = number.map asciiDigitOf := by
  have hinner : ∀ c ∈ number, isNumberSpace c = false := by
    intro c hc
    refine Bool.eq_false_iff.2 fun hspace => ?_
    exact Bool.eq_false_iff.1 (hnumber.isSpace_eq_false hc) (isSpace_of_isNumberSpace hspace)
  have hhead : ∀ c, (number ++ after).head? = some c → isNumberSpace c = false := by
    intro c hc
    cases number with
    | nil => exact absurd rfl hnumber.ne_nil
    | cons d ds =>
      obtain rfl : d = c := Option.some.inj hc
      exact hinner d (List.mem_cons_self ..)
  have hlast : ∀ c, number.getLast? = some c → isNumberSpace c = false :=
    fun c hc => hinner c (List.mem_of_mem_getLast? hc)
  rw [trimNumber, trimBy, dropWhile_span hbefore hhead, trimRightBy_append hlast hafter]

/-- What can be read has no separator, also not around it. -/
theorem isSeparator_of_readFloat? {s : List Char} {x : Binary64} (h : readFloat? s = some x) :
    ∀ c ∈ s, isSeparator c = false := by
  have hclean := isSeparator_of_readPlainFloat? h
  obtain ⟨before, after, hbefore, hafter, hs⟩ := trimBy_spec (p := isNumberSpace) s
  rw [hs]
  intro c hc
  obtain hc | hc | hc : c ∈ before ∨ c ∈ trimBy isNumberSpace s ∨ c ∈ after := by
    simpa using hc
  · exact isSeparator_of_isNumberSpace (hbefore c hc)
  · -- putting digits into ASCII keeps a separator
    have hmem : asciiDigitOf c ∈ trimNumber s := List.mem_map_of_mem hc
    refine Bool.eq_false_iff.2 fun hseparator => ?_
    have hdecimal : isDecimal c = false := Bool.eq_false_iff.2 fun hdecimal =>
      Bool.eq_false_iff.1 (isSpace_of_isDecimal hdecimal) (isSpace_of_isSeparator hseparator)
    rw [asciiDigitOf_of_not_isDecimal hdecimal] at hmem
    exact Bool.eq_false_iff.1 (hclean c hmem) hseparator
  · exact isSeparator_of_isNumberSpace (hafter c hc)

/-- A text in the form of a number is read as none exactly when a separator stands in it. -/
theorem readFloat?_of_isNumeric {s : List Char} (h : isNumeric s = true) :
    readFloat? s = none ↔ ∃ c ∈ s, isSeparator c = true := by
  unfold isNumeric at h
  split at h
  · next number rest hspan =>
    obtain ⟨blanks, core, hblanks, hcore, rfl⟩ := spanNumber?_spec hspan
    have hrest : ∀ c ∈ rest, isSpace c = true := List.all_eq_true.1 h
    -- without separators all white space around the number is such that the reader skips it
    constructor
    · intro hnone
      by_contra hno
      have hclean : ∀ c ∈ blanks ++ (core ++ rest), isSeparator c = false := by
        intro c hc
        exact Bool.eq_false_iff.2 fun hseparator => hno ⟨c, hc, hseparator⟩
      have hbefore : ∀ c ∈ blanks, isNumberSpace c = true :=
        fun c hc => (isNumberSpace_iff (hblanks c hc)).2 (hclean c (by simp [hc]))
      have hafter : ∀ c ∈ rest, isNumberSpace c = true :=
        fun c hc => (isNumberSpace_iff (hrest c hc)).2 (hclean c (by simp [hc]))
      have hsome := readPlainFloat?_isSome hcore.map
      rw [← trimNumber_padded hbefore hcore hafter, ← readFloat?, hnone] at hsome
      cases hsome
    · rintro ⟨c, hc, hseparator⟩
      cases hread : readFloat? (blanks ++ (core ++ rest)) with
      | none => rfl
      | some x =>
        rw [isSeparator_of_readFloat? hread c hc] at hseparator
        cases hseparator
  · cases h

/-- A file separator before a digit. -/
example : isNumeric ['\x1C', '5'] = true ∧ readFloat? ['\x1C', '5'] = none := by decide

end RecordTemplate.Number
