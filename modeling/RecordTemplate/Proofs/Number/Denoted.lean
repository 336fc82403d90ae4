/-
  RecordTemplate.Proofs.Number.Denoted

  The number that a text in decimal denotes.  Digits are read as the number that they were written
  for (`isNumeral_digits`), with zeros in front or behind as the place of the point asks for, and
  so the text of a double precision number denotes its shortest decimal, positional or with an
  exponent (`denotes_text`).
-/

import RecordTemplate.Number.Shortest
import RecordTemplate.Proofs.Number.Reader
import RecordTemplate.Proofs.Number.Rounding

namespace RecordTemplate.Number

open RecordTemplate.Text

/-! ## Numerals -/

theorem isAscii_of_isAsciiDigit {c : Char} (h : isAsciiDigit c = true) : isAscii c = true := by
  simp only [isAsciiDigit, Bool.and_eq_true, decide_eq_true_eq, Char.le_def] at h
  have hle : c.toNat ≤ 57 := UInt32.le_iff_toNat_le.1 h.2
  exact decide_eq_true (by omega)

theorem decimalDigit?_of_isAsciiDigit {c : Char} (h : isAsciiDigit c = true) :
    decimalDigit? c = some (c.toNat - 0x30) := by
  rw [decimalDigit?, if_pos (isAscii_of_isAsciiDigit h), asciiDigit?, if_pos h]

theorem isDecimal_of_isAsciiDigit {c : Char} (h : isAsciiDigit c = true) : isDecimal c = true := by
  rw [isDecimal, decimalDigit?_of_isAsciiDigit h]
  rfl

/-- Digits that stand for a number. -/
structure IsNumeral (s : List Char) (n : ℕ) : Prop where
  digits : ∀ c ∈ s, isAsciiDigit c = true
  value : digitsValue s = n

theorem digitsValueFrom_eq (acc : ℕ) (s : List Char) :
    digitsValueFrom acc s = acc * 10 ^ s.length + digitsValue s := by
  induction s generalizing acc with
  | nil => simp [digitsValueFrom, digitsValue]
  | cons c s ih =>
    have hstep : ∀ a, digitsValueFrom a (c :: s) =
        digitsValueFrom (10 * a + (decimalDigit? c).getD 0) s := fun a => rfl
    rw [digitsValue, hstep, hstep, ih, ih (10 * 0 + _), List.length_cons, pow_succ]
    ring

namespace IsNumeral

variable {s t : List Char} {m n : ℕ}

theorem isDigits (h : IsNumeral s n) : IsDigits s :=
  fun c hc => isDecimal_of_isAsciiDigit (h.digits c hc)

/-- Digits behind digits move these by their number. -/
theorem append (hs : IsNumeral s m) (ht : IsNumeral t n) :
    IsNumeral (s ++ t) (m * 10 ^ t.length + n) where
  digits c hc := (List.mem_append.1 hc).elim (hs.digits c) (ht.digits c)
  value := by
    have happend : digitsValue (s ++ t) = digitsValueFrom (digitsValue s) t :=
      List.foldl_append
    rw [happend, digitsValueFrom_eq, hs.value, ht.value]

end IsNumeral

theorem isNumeral_nil : IsNumeral [] 0 := ⟨by simp, rfl⟩

theorem isNumeral_zero : IsNumeral ['0'] 0 := ⟨by decide, by decide⟩

theorem isNumeral_zeros (k : ℕ) : IsNumeral (List.replicate k '0') 0 := by
  induction k with
  | zero => exact isNumeral_nil
  | succ k ih =>
    rw [List.replicate_succ']
    simpa using ih.append isNumeral_zero

/-- The digits of a number stand for it. -/
theorem isNumeral_digits (n : ℕ) : IsNumeral (digits n) n := by
  have hdigits : ∀ c ∈ digits n, isAsciiDigit c = true :=
    fun c hc => Nat.isDigit_of_mem_toDigits (by decide) (by decide) hc
  refine ⟨hdigits, ?_⟩
  have hvalue : ∀ (s : List Char), (∀ c ∈ s, isAsciiDigit c = true) → ∀ acc,
      digitsValueFrom acc s = Nat.ofDigitChars 10 s acc := by
    intro s hs
    induction s with
    | nil => exact fun acc => rfl
    | cons c s ih =>
      intro acc
      have hc := decimalDigit?_of_isAsciiDigit (hs c List.mem_cons_self)
      have hstep : digitsValueFrom acc (c :: s) =
          digitsValueFrom (10 * acc + (decimalDigit? c).getD 0) s := rfl
      rw [hstep, hc]
      exact ih (fun d hd => hs d (List.mem_cons_of_mem _ hd)) _
  rw [digitsValue, hvalue _ hdigits]
  exact Nat.ofDigitChars_toDigits (by decide) (by decide)

theorem isNumeral_padded (width n : ℕ) : IsNumeral (padded width n) n := by
  simpa [padded] using (isNumeral_zeros (width - digitCount n)).append (isNumeral_digits n)

/-- A number below a power of ten is padded to as many digits. -/
theorem length_padded {width n : ℕ} (hwidth : 0 < width) (h : n < 10 ^ width) :
    (padded width n).length = width := by
  have hcount : digitCount n ≤ width := (Nat.length_toDigits_le_iff (by decide) hwidth).2 h
  rw [padded, List.length_append, List.length_replicate]
  exact Nat.sub_add_cancel hcount

/-! ## Reading -/

theorem takeSign_signText {negative : Bool} {s : List Char}
    (hs : ∀ c, s.head? = some c → c ≠ '+' ∧ c ≠ '-') :
    Decimal.takeSign (Decimal.signText negative ++ s) = (negative, s) := by
  cases negative with
  | true => rfl
  | false =>
    change Decimal.takeSign s = (false, s)
    unfold Decimal.takeSign
    split
    · exact absurd rfl (hs _ rfl).2
    · exact absurd rfl (hs _ rfl).1
    · rfl

/-- What a number with a sign, a fraction or none, and an exponent or none is read as. -/
theorem readFinite?_of_parts (negative : Bool) {whole fraction tail exponent : List Char} {k : ℤ}
    (hwhole : IsDigits whole) (hne : whole ≠ []) (hfraction : IsDigits fraction)
    (htail : tail = [] ∧ fraction = [] ∨ tail = '.' :: fraction)
    (hexponent : Decimal.readExponent? exponent = some k) :
    Decimal.readFinite? (Decimal.signText negative ++ (whole ++ (tail ++ exponent))) =
      some (negative, digitsValue (whole ++ fraction), k - fraction.length) := by
  have hform : IsExponent exponent :=
    readExponent?_isSome_iff.1 (Option.isSome_iff_exists.2 ⟨k, hexponent⟩)
  have hstop := isDecimal_head_exponent hform
  have htake : Decimal.takeSign (Decimal.signText negative ++ (whole ++ (tail ++ exponent))) =
      (negative, whole ++ (tail ++ exponent)) :=
    takeSign_signText fun c hc => ne_of_isDecimal (hwhole.head hne c hc)
  unfold Decimal.readFinite?
  rw [htake]
  obtain ⟨rfl, rfl⟩ | rfl := htail
  · dsimp only
    rw [List.nil_append, spanDigits_append hwhole hstop]
    dsimp only
    split
    · exact absurd hform not_isExponent_point
    · dsimp only
      rw [if_neg (by simp [hne]), hexponent]
      rfl
  · have hpoint : ∀ c, ('.' :: (fraction ++ exponent)).head? = some c → isDecimal c = false := by
      rintro c ⟨⟩
      decide
    have hsome : ¬(whole = [] ∧ fraction = []) := fun h => hne h.1
    simp only [List.cons_append, spanDigits_append hwhole hpoint,
      spanDigits_append hfraction hstop, if_neg hsome, hexponent, Option.map_some]

/-- The number that a text in decimal denotes. -/
def Denotes (s : List Char) (d : ℚ) : Prop :=
  ∃ negative c k, Decimal.readFinite? s = some (negative, c, k) ∧ d = decimalValue negative c k

theorem Denotes.unique {s : List Char} {d d' : ℚ} (h : Denotes s d) (h' : Denotes s d') :
    d = d' := by
  obtain ⟨negative, c, k, hread, rfl⟩ := h
  obtain ⟨negative', c', k', hread', rfl⟩ := h'
  cases hread.symm.trans hread'
  rfl

/-- Digits with a point among them and an exponent denote what the digits stand for, moved by the
    fraction and the exponent. -/
theorem denotes_of_parts (negative : Bool) {whole fraction tail exponent : List Char} {n : ℕ}
    {k : ℤ} (hdigits : IsNumeral (whole ++ fraction) n) (hne : whole ≠ [])
    (htail : tail = [] ∧ fraction = [] ∨ tail = '.' :: fraction)
    (hexponent : Decimal.readExponent? exponent = some k) :
    Denotes (Decimal.signText negative ++ (whole ++ (tail ++ exponent)))
      (decimalValue negative n (k - fraction.length)) := by
  have hwhole : IsDigits whole := fun c hc => hdigits.isDigits c (List.mem_append_left _ hc)
  have hfraction : IsDigits fraction := fun c hc => hdigits.isDigits c (List.mem_append_right _ hc)
  refine ⟨_, _, _, readFinite?_of_parts negative hwhole hne hfraction htail hexponent,
    ?_⟩
  rw [hdigits.value]

/-! ## The text of a double precision number -/

namespace Binary64

/-- An exponent is read as it was written. -/
theorem readExponent?_text (e : ℤ) :
    Decimal.readExponent? ('e' :: (if e < 0 then '-' else '+') :: padded 2 e.natAbs) = some e := by
  have hnumeral := isNumeral_padded 2 e.natAbs
  have hdigits : padded 2 e.natAbs ≠ [] ∧ (padded 2 e.natAbs).all isDecimal = true :=
    ⟨by simp [padded, digits_ne_nil], List.all_eq_true.2 hnumeral.isDigits⟩
  have hsign : Decimal.takeSign ((if e < 0 then '-' else '+') :: padded 2 e.natAbs) =
      (decide (e < 0), padded 2 e.natAbs) := by
    by_cases he : e < 0 <;> simp [he, Decimal.takeSign]
  simp only [Decimal.readExponent?, hsign, if_pos hdigits, hnumeral.value, decide_eq_true_eq,
    true_or, if_true]
  split <;> congr 1 <;> omega

/-- Moving the point by zeros behind the digits changes nothing. -/
theorem decimalValue_shift (negative : Bool) (c j : ℕ) (k : ℤ) :
    decimalValue negative (c * 10 ^ j) (k - j) = decimalValue negative c k := by
  have hmove : ((c * 10 ^ j : ℕ) : ℚ) * 10 ^ (k - j) = c * 10 ^ k := by
    push_cast
    rw [mul_assoc, ← zpow_natCast, ← zpow_add₀ (by norm_num)]
    congr 2
    omega
  rw [decimalValue, hmove, decimalValue]

theorem denotes_positional (negative : Bool) (c : ℕ) (k : ℤ) :
    Denotes (Decimal.signText negative ++ positional (digits c) ((digits c).length + k))
      (decimalValue negative c k) := by
  have hdigits := isNumeral_digits c
  have hread : Decimal.readExponent? [] = some 0 := rfl
  unfold positional
  split
  · next hpoint =>
    -- all digits stand behind the point
    have hlength : (0 : ℤ) - (List.replicate (-((digits c).length + k)).toNat '0' ++
        digits c).length = k := by
      rw [List.length_append, List.length_replicate]
      omega
    have hnumeral : IsNumeral (['0'] ++ (List.replicate (-((digits c).length + k)).toNat '0' ++
        digits c)) c := by
      simpa using isNumeral_zero.append ((isNumeral_zeros _).append hdigits)
    have := denotes_of_parts negative hnumeral (by simp) (.inr rfl) hread
    rwa [hlength, List.append_nil] at this
  · next hpoint =>
    split
    · next hlength =>
      -- zeros fill up to the point
      have hmove : (0 : ℤ) - ['0'].length =
          k - (((digits c).length + k).toNat - (digits c).length + 1 : ℕ) := by
        rw [List.length_singleton]
        omega
      have hnumeral : IsNumeral ((digits c ++ List.replicate
          (((digits c).length + k).toNat - (digits c).length) '0') ++ ['0'])
          (c * 10 ^ (((digits c).length + k).toNat - (digits c).length + 1)) := by
        have := (hdigits.append (isNumeral_zeros (((digits c).length + k).toNat -
          (digits c).length))).append isNumeral_zero
        simpa [pow_succ, mul_assoc] using this
      have := denotes_of_parts negative hnumeral (by simp [digits_ne_nil])
        (.inr rfl) hread
      rw [hmove, decimalValue_shift] at this
      rwa [List.append_nil] at this
    · next hlength =>
      have hmove : (0 : ℤ) - ((digits c).drop ((digits c).length + k).toNat).length = k := by
        rw [List.length_drop]
        omega
      have hnumeral : IsNumeral ((digits c).take ((digits c).length + k).toNat ++
          (digits c).drop ((digits c).length + k).toNat) c := by
        rwa [List.take_append_drop]
      have hne : (digits c).take ((digits c).length + k).toNat ≠ [] := by
        rw [Ne, List.take_eq_nil_iff, not_or]
        exact ⟨by omega, digits_ne_nil c⟩
      have := denotes_of_parts negative hnumeral hne (.inr rfl) hread
      rwa [hmove, List.append_nil] at this

theorem denotes_scientific (negative : Bool) (c : ℕ) (k : ℤ) :
    Denotes (Decimal.signText negative ++ scientific (digits c) ((digits c).length + k - 1))
      (decimalValue negative c k) := by
  have hpos : 0 < (digits c).length := List.length_pos_iff.2 (digits_ne_nil c)
  have hmove : (digits c).length + k - 1 - ((digits c).drop 1).length = k := by
    rw [List.length_drop]
    omega
  have hnumeral : IsNumeral ((digits c).take 1 ++ (digits c).drop 1) c := by
    rw [List.take_append_drop]
    exact isNumeral_digits c
  have hne : (digits c).take 1 ≠ [] := by
    rw [Ne, List.take_eq_nil_iff, not_or]
    exact ⟨by omega, digits_ne_nil c⟩
  have htail : (if ((digits c).drop 1).isEmpty then [] else '.' :: (digits c).drop 1) = [] ∧
      (digits c).drop 1 = [] ∨
      (if ((digits c).drop 1).isEmpty then [] else '.' :: (digits c).drop 1) =
        '.' :: (digits c).drop 1 := by
    cases (digits c).drop 1 <;> simp
  have := denotes_of_parts negative hnumeral hne htail
    (readExponent?_text ((digits c).length + k - 1))
  rw [hmove] at this
  rwa [scientific, List.append_assoc]

/-- The text of a finite number denotes its shortest decimal. -/
theorem denotes_text (negative : Bool) (m : ℕ) (e : ℤ) :
    Denotes (text (.finite negative m e))
      (decimalValue negative (shortest m e).1 (shortest m e).2) := by
  change Denotes (Decimal.signText negative ++ magnitudeText m e) _
  unfold magnitudeText
  dsimp only
  split
  · exact denotes_positional negative _ _
  · exact denotes_scientific negative _ _

end Binary64
end RecordTemplate.Number
