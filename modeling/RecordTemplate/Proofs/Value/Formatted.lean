/-
  RecordTemplate.Proofs.Value.Formatted

  Formatted numbers read back.  A reader leaves out currency marks and white space, and tells the
  decimal separator from the others by which of them occur, which is last and how much follows it
  (`Value.plainNumber`).  What a layout with one of the usual conventions shows lands in the branch
  that is meant for it, whatever the number of groups, and is read as the number nearest to what
  was shown (`Value.readNumber_shown`).
-/

import RecordTemplate.Proofs.Number.Grouped
import RecordTemplate.Proofs.Number.Nearest
import RecordTemplate.Value.Reading

namespace RecordTemplate

open RecordTemplate.Number RecordTemplate.Text

namespace Number

/-! ## Characters of numbers -/

/-- The characters of which numbers are made. -/
def IsNumberChar (c : Char) : Prop := isAsciiDigit c = true ∨ c ∈ ['+', '-', '.', 'e', 'E']

variable {c : Char}

theorem isNumberMark_of_isAsciiDigit (h : isAsciiDigit c = true) :
    Value.isNumberMark c = false := by
  have hmarks : ∀ m ∈ ['R', '$', '€', '£', '¥', '₹', 'z', 'ł'], isAsciiDigit m = false := by decide
  refine Bool.eq_false_iff.2 fun hmark => ?_
  rw [Value.isNumberMark, Bool.or_eq_true] at hmark
  obtain hmem | hspace := hmark
  · rw [hmarks c (by simpa using hmem)] at h
    cases h
  · rw [isSpace_of_isDecimal (isDecimal_of_isAsciiDigit h)] at hspace
    cases hspace

theorem IsNumberChar.isNumberMark (h : IsNumberChar c) : Value.isNumberMark c = false := by
  have hmarks : ∀ m ∈ ['+', '-', '.', 'e', 'E'], Value.isNumberMark m = false := by decide
  exact h.elim isNumberMark_of_isAsciiDigit (hmarks c)

theorem IsNumberChar.asciiDigitOf (h : IsNumberChar c) : asciiDigitOf c = c := by
  have hmarks : ∀ m ∈ ['+', '-', '.', 'e', 'E'], Number.asciiDigitOf m = m := by decide
  obtain hdigit | hmark := h
  · have hlow : 0x30 ≤ c.toNat := by
      simp only [isAsciiDigit, Bool.and_eq_true, decide_eq_true_eq, Char.le_def] at hdigit
      exact UInt32.le_iff_toNat_le.1 hdigit.1
    rw [Number.asciiDigitOf, decimalDigit?_of_isAsciiDigit hdigit]
    dsimp only
    rw [Nat.add_sub_cancel' hlow, Char.ofNat_toNat]
  · exact hmarks c hmark

/-- A decimal is read as the double precision number nearest to it. -/
theorem readFloat?_of_readFinite? {s : List Char} {negative : Bool} {n : ℕ} {k : ℤ}
    (hs : ∀ c ∈ s, IsNumberChar c) (h : Decimal.readFinite? s = some (negative, n, k)) :
    readFloat? s = some (.ofDecimal negative n k) := by
  have hnumber : IsNumberText s :=
    readFinite?_isSome_iff.1 (Option.isSome_iff_exists.2 ⟨_, h⟩)
  have htrim : trimNumber s = s := by
    have hpadded := @trimNumber_padded [] s [] (by simp) hnumber (by simp)
    rw [List.nil_append, List.append_nil] at hpadded
    rw [hpadded, List.map_congr_left (g := id) fun c hc => (hs c hc).asciiDigitOf, List.map_id]
  have hunderscore : '_' ∉ s := by
    intro hmem
    obtain hdigit | hmark := hs '_' hmem
    · exact absurd hdigit (by decide)
    · exact absurd hmark (by decide)
  rw [readFloat?, htrim, readPlainFloat?, dropUnderscores?_of_not_mem (by decide) hunderscore]
  simp only [h]

theorem IsNumeral.isNumberChar {s : List Char} {n : ℕ} (h : IsNumeral s n) :
    ∀ c ∈ s, IsNumberChar c :=
  fun c hc => .inl (h.digits c hc)

theorem isNumberChar_of_mem_positional {ds : List Char} (hds : ∀ c ∈ ds, IsNumberChar c)
    (point : ℤ) : ∀ c ∈ Binary64.positional ds point, IsNumberChar c := by
  have hpoint : IsNumberChar '.' := .inr (by decide)
  have hzero : IsNumberChar '0' := .inl (by decide)
  have hzeros : ∀ k, ∀ c ∈ List.replicate k '0', IsNumberChar c :=
    fun k => (isNumeral_zeros k).isNumberChar
  unfold Binary64.positional
  split
  · exact List.forall_mem_cons.2 ⟨hzero, List.forall_mem_cons.2 ⟨hpoint,
      List.forall_mem_append.2 ⟨hzeros _, hds⟩⟩⟩
  · split
    · exact List.forall_mem_append.2 ⟨List.forall_mem_append.2 ⟨hds, hzeros _⟩,
        by simp [hpoint, hzero]⟩
    · exact List.forall_mem_append.2 ⟨fun c hc => hds c (List.mem_of_mem_take hc),
        List.forall_mem_cons.2 ⟨hpoint, fun c hc => hds c (List.mem_of_mem_drop hc)⟩⟩

theorem isNumberChar_of_mem_scientific {ds : List Char} (hds : ∀ c ∈ ds, IsNumberChar c) (e : ℤ) :
    ∀ c ∈ Binary64.scientific ds e, IsNumberChar c := by
  have hmark : ∀ m ∈ ['+', '-', '.', 'e', 'E'], IsNumberChar m := fun m hm => .inr hm
  have hfraction : ∀ c ∈ (if (ds.drop 1).isEmpty then [] else '.' :: ds.drop 1),
      IsNumberChar c := by
    split
    · simp
    · exact List.forall_mem_cons.2 ⟨hmark _ (by decide),
        fun c hc => hds c (List.mem_of_mem_drop hc)⟩
  have hsign : IsNumberChar (if e < 0 then '-' else '+') := by
    split
    · exact hmark _ (by decide)
    · exact hmark _ (by decide)
  exact List.forall_mem_append.2 ⟨List.forall_mem_append.2
    ⟨fun c hc => hds c (List.mem_of_mem_take hc), hfraction⟩,
    List.forall_mem_cons.2 ⟨hmark _ (by decide), List.forall_mem_cons.2
      ⟨hsign, (isNumeral_padded 2 e.natAbs).isNumberChar⟩⟩⟩

theorem isNumberChar_of_mem_signText {negative : Bool} :
    ∀ c ∈ Decimal.signText negative, IsNumberChar c := by
  cases negative with
  | false => simp [Decimal.signText]
  | true => simp [Decimal.signText, IsNumberChar]

/-- The text of a finite number is made of the characters of numbers. -/
theorem isNumberChar_of_mem_text {negative : Bool} {m : ℕ} {e : ℤ} :
    ∀ c ∈ Binary64.text (.finite negative m e), IsNumberChar c := by
  have hdigits := (isNumeral_digits (Binary64.shortest m e).1).isNumberChar
  refine List.forall_mem_append.2 ⟨isNumberChar_of_mem_signText, ?_⟩
  unfold Binary64.magnitudeText
  dsimp only
  split
  · exact isNumberChar_of_mem_positional hdigits _
  · exact isNumberChar_of_mem_scientific hdigits _

end Number

namespace Value

/-! ## Conventions -/

variable {s before fraction tail : List Char}

/-- A text without currency marks and white space. -/
def unmarked (s : List Char) : List Char := s.filter fun c => !isNumberMark c

theorem unmarked_append (s t : List Char) : unmarked (s ++ t) = unmarked s ++ unmarked t :=
  List.filter_append ..

theorem unmarked_eq_self (h : ∀ c ∈ s, isNumberMark c = false) : unmarked s = s :=
  List.filter_eq_self.2 fun c hc => by rw [h c hc]; rfl

theorem unmarked_unmarked (s : List Char) : unmarked (unmarked s) = unmarked s :=
  unmarked_eq_self fun c hc => by simpa using (List.mem_filter.1 hc).2

theorem filter_ne_eq_self {c : Char} (h : c ∉ s) : s.filter (· ≠ c) = s := by
  refine List.filter_eq_self.2 fun d hd => decide_eq_true ?_
  rintro rfl
  exact h hd

/-- A number is read from what is left without marks. -/
theorem plainNumber_congr {s t : List Char} (h : unmarked s = unmarked t) :
    plainNumber s = plainNumber t := by
  unfold unmarked at h
  rw [plainNumber, plainNumber, h]

/-- Of two marks the one behind which there is none is the last. -/
theorem commaIsLast_append {c : Char} (hc : c = ',' ∨ c = '.')
    (hfraction : ',' ∉ fraction ∧ '.' ∉ fraction) :
    commaIsLast (before ++ c :: fraction) = (c == ',') := by
  have hnone : fraction.reverse.find? (fun c => c == ',' || c == '.') = none := by
    rw [List.find?_eq_none]
    intro d hd
    have hmem := List.mem_reverse.1 hd
    simp only [Bool.or_eq_true, beq_iff_eq, not_or]
    exact ⟨fun h => hfraction.1 (h ▸ hmem), fun h => hfraction.2 (h ▸ hmem)⟩
  have hfound : (c == ',' || c == '.') = true := by simpa using hc
  rw [commaIsLast, List.reverse_append, List.reverse_cons, List.append_assoc, List.find?_append,
    hnone, List.singleton_append, List.find?_cons, hfound]
  obtain rfl | rfl := hc <;> rfl

/-- Commas in front of a point, or at every third digit, are left out. -/
theorem plainNumber_of_commas {first : List Char} {rest : List (List Char)}
    (hmarks : unmarked (joinWith [','] (first :: rest) ++ tail) =
      joinWith [','] (first :: rest) ++ tail)
    (hfirst : ',' ∉ first ∧ '.' ∉ first)
    (hrest : ∀ part ∈ rest, (',' ∉ part ∧ '.' ∉ part) ∧ part.length = 3)
    (htail : tail = [] ∨ (',' ∉ fraction ∧ '.' ∉ fraction) ∧ tail = '.' :: fraction) :
    plainNumber (joinWith [','] (first :: rest) ++ tail) =
      (joinWith [','] (first :: rest) ++ tail).filter (· ≠ ',') := by
  unfold unmarked at hmarks
  have hparts : ∀ part ∈ first :: rest, ',' ∉ part ∧ '.' ∉ part := by
    intro part hpart
    obtain rfl | hpart := List.mem_cons.1 hpart
    · exact hfirst
    · exact (hrest part hpart).1
  have hpoint : '.' ∉ joinWith [','] (first :: rest) :=
    joinWith_induction (P := fun s => '.' ∉ s) (by simp) (by simp +contextual) (by decide)
      fun part hpart => (hparts part hpart).2
  unfold plainNumber
  simp only [hmarks]
  split
  · next hboth =>
    -- the point stands behind the commas
    obtain rfl | ⟨hfraction, rfl⟩ := htail
    · simp [hpoint] at hboth
    · rw [commaIsLast_append (.inr rfl) hfraction]
      rfl
  · next hnotboth =>
    split
    · next hcomma =>
      have htail : tail = [] := by
        obtain htail | ⟨-, rfl⟩ := htail
        · exact htail
        · rw [hcomma] at hnotboth
          simp at hnotboth
      have hsplit := splitOn_joinWith (List.cons_ne_nil first rest)
        fun part hpart => (hparts part hpart).1
      rw [htail, List.append_nil, hsplit]
      split
      · next hpair =>
        -- three digits follow, too many for a fraction
        obtain ⟨-, rfl⟩ := List.cons.inj hpair
        rw [if_neg (by rw [(hrest _ (by simp)).2]; decide)]
      · rfl
    · next hcomma =>
      exact (filter_ne_eq_self fun hmem => hcomma (List.contains_iff_mem.2 hmem)).symm

/-- A comma in front of at most two digits is the decimal separator, and points in front of it
    are left out. -/
theorem plainNumber_of_comma
    (hmarks : unmarked (before ++ ',' :: fraction) = before ++ ',' :: fraction)
    (hbefore : ',' ∉ before) (hfraction : ',' ∉ fraction ∧ '.' ∉ fraction)
    (hlength : fraction.length ≤ 2) :
    plainNumber (before ++ ',' :: fraction) = before.filter (· ≠ '.') ++ '.' :: fraction := by
  unfold unmarked at hmarks
  have hreplace : ∀ front : List Char, ',' ∉ front →
      replaceAll [','] ['.'] (front ++ ',' :: fraction) = front ++ '.' :: fraction := by
    intro front hfront
    rw [replaceAll, splitOn_two hfront hfraction.1]
    simp [joinWith]
  have hcomma : (before ++ ',' :: fraction).contains ',' = true := by simp
  unfold plainNumber
  simp only [hmarks, hcomma, Bool.true_and, if_true]
  split
  · have hfront : ',' ∉ before.filter (· ≠ '.') := fun h => hbefore (List.mem_of_mem_filter h)
    rw [commaIsLast_append (.inl rfl) hfraction, List.filter_append,
      filter_ne_eq_self (by simp [hfraction.2] : '.' ∉ ',' :: fraction), hreplace _ hfront]
    rfl
  · next hpoint =>
    have hnone : '.' ∉ before := fun h => hpoint (by simp [h])
    rw [splitOn_two hbefore hfraction.1]
    dsimp only
    rw [if_pos hlength, hreplace _ hbefore, filter_ne_eq_self hnone]

/-! ## Reading -/

/-- White space around a text is left out anyway. -/
theorem unmarked_trim (s : List Char) : unmarked (trim s) = unmarked s := by
  obtain ⟨front, back, hfront, hback, hs⟩ := trimBy_spec (p := isSpace) s
  have hnone : ∀ t : List Char, (∀ c ∈ t, isSpace c = true) → unmarked t = [] := by
    intro t ht
    refine List.filter_eq_nil_iff.2 fun c hc => ?_
    simp [isNumberMark, ht c hc]
  conv_rhs => rw [hs]
  rw [unmarked_append, unmarked_append, hnone front hfront, hnone back hback, List.append_nil,
    List.nil_append, trim]

/-- A text is read from what is left of it without marks. -/
theorem readNumber_text {t : String} {x : Binary64}
    (h : readFloat? (plainNumber t.toList) = some x) : (Value.text t).readNumber = .ok x := by
  have hplain : plainNumber (trim t.toList) = plainNumber t.toList :=
    plainNumber_congr (unmarked_trim _)
  have hne : trim t.toList ≠ [] := by
    intro hnil
    have hnone : readFloat? (plainNumber []) = none := by decide
    rw [← hplain, hnil, hnone] at h
    cases h
  have hrender : (Value.text t).render = t := rfl
  simp only [readNumber, toBinary64?, hrender, if_neg hne, hplain, h]

theorem plainNumber_of_not_mem (hmarks : unmarked s = s) (hcomma : ',' ∉ s) :
    plainNumber s = s := by
  have hnone : s.contains ',' = false := by simpa using hcomma
  unfold unmarked at hmarks
  unfold plainNumber
  simp only [hmarks, hnone]
  rfl

/-- The text of a finite number is read as a double precision number for the decimal that it
    denotes. -/
theorem readNumber_display {negative : Bool} {m : ℕ} {e : ℤ} {d : ℚ}
    (h : Denotes (Binary64.text (.finite negative m e)) d) : ∃ negative' n k,
      (Value.text (String.ofList (Binary64.text (.finite negative m e)))).readNumber =
        .ok (.ofDecimal negative' n k) ∧ d = decimalValue negative' n k := by
  obtain ⟨negative', n, k, hread, hd⟩ := h
  refine ⟨negative', n, k, readNumber_text ?_, hd⟩
  have hchars : ∀ c ∈ Binary64.text (.finite negative m e), IsNumberChar c :=
    isNumberChar_of_mem_text
  have hmarks : unmarked (Binary64.text (.finite negative m e)) =
      Binary64.text (.finite negative m e) :=
    unmarked_eq_self fun c hc => (hchars c hc).isNumberMark
  have hcomma : ',' ∉ Binary64.text (.finite negative m e) := by
    intro hmem
    obtain hdigit | hmark := hchars ',' hmem
    · exact absurd hdigit (by decide)
    · exact absurd hmark (by decide)
  rw [String.toList_ofList, plainNumber_of_not_mem hmarks hcomma]
  exact readFloat?_of_readFinite? hchars hread

end Value

namespace Number.Layout

/-- The usual conventions: a comma between the groups with a point for the decimal separator, or a
    point or a blank between them with a comma for it, which two places follow. -/
inductive IsUsual : Layout → Prop where
  | point (places : ℕ) : IsUsual ⟨places, ['.'], [',']⟩
  | comma {separator : List Char} (hseparator : separator = ['.'] ∨ separator = [' ']) :
      IsUsual ⟨2, [','], separator⟩

namespace Shown

variable {l : Layout} {r : ℚ}

/-- The digits that are shown, without separators and with a point. -/
def plain (w : l.Shown r) : List Char :=
  Decimal.signText (decide (r < 0)) ++
    (w.whole ++ if l.places = 0 then [] else '.' :: w.fraction)

theorem digits_of_mem_groups (w : l.Shown r) {group : List Char} (h : group ∈ w.groups) :
    ∀ c ∈ group, isAsciiDigit c = true := by
  intro c hc
  refine w.whole_numeral.digits c ?_
  rw [← w.grouped.digits]
  exact List.mem_flatten.2 ⟨group, h, hc⟩

/-- There is a first group, and three digits are in each of the others. -/
theorem exists_first (w : l.Shown r) :
    ∃ first rest, w.groups = first :: rest ∧ ∀ group ∈ rest, group.length = 3 := by
  have hthree := w.grouped.others
  cases hgroups : w.groups with
  | nil =>
    have hwhole : w.whole = [] := by rw [← w.grouped.digits, hgroups, List.flatten_nil]
    exact absurd hwhole w.whole_ne_nil
  | cons first rest =>
    rw [hgroups] at hthree
    exact ⟨first, rest, rfl, hthree⟩

/-- The shown digits are read as the number nearest to what is shown. -/
theorem readFloat?_plain (w : l.Shown r) (hrange : |r| * 10 ^ l.places < 10 ^ 28) :
    readFloat? w.plain = some (Binary64.nearest r) := by
  obtain ⟨n, hn, hvalue⟩ := w.fraction_numeral
  have hdigits := w.whole_numeral.append hn
  have htail : ((if l.places = 0 then [] else '.' :: w.fraction) = [] ∧ w.fraction = []) ∨
      (if l.places = 0 then [] else '.' :: w.fraction) = '.' :: w.fraction := by
    have hlength := w.fraction_length
    split
    · next hzero => exact .inl ⟨rfl, List.length_eq_zero_iff.1 (hlength.trans hzero)⟩
    · exact .inr rfl
  have hnone : Decimal.readExponent? [] = some 0 := rfl
  have hread := readFinite?_of_parts (decide (r < 0)) w.whole_numeral.isDigits w.whole_ne_nil
    hn.isDigits htail hnone
  rw [List.append_nil, hdigits.value, w.fraction_length] at hread
  have hchars : ∀ c ∈ w.plain, IsNumberChar c := by
    refine List.forall_mem_append.2 ⟨isNumberChar_of_mem_signText,
      List.forall_mem_append.2 ⟨w.whole_numeral.isNumberChar, ?_⟩⟩
    split
    · simp
    · exact List.forall_mem_cons.2 ⟨.inr (by decide), hn.isNumberChar⟩
  rw [readFloat?_of_readFinite? hchars hread]
  -- the digits count units of the last place
  have hunits : ((⌊|r|⌋₊ * 10 ^ l.places + n : ℕ) : ℚ) = |r| * 10 ^ l.places := by
    push_cast
    rw [hvalue]
    ring
  have hmagnitude : ((⌊|r|⌋₊ * 10 ^ l.places + n : ℕ) : ℚ) * 10 ^ (0 - (l.places : ℤ)) = |r| := by
    rw [hunits, zero_sub, zpow_neg, zpow_natCast, mul_inv_cancel_right₀ (by positivity)]
  have hr : decimalValue (decide (r < 0)) (⌊|r|⌋₊ * 10 ^ l.places + n) (0 - l.places) = r := by
    rw [decimalValue, hmagnitude, withSign]
    split
    · next hneg => rw [abs_of_neg (of_decide_eq_true hneg), neg_neg]
    · next hneg => exact abs_of_nonneg (not_lt.1 (by simpa using hneg))
  have hsign : ⌊|r|⌋₊ * 10 ^ l.places + n ≠ 0 ∨ decide (r < 0) = false := by
    refine or_iff_not_imp_right.2 fun hneg hzero => ?_
    rw [hzero, Nat.cast_zero, zero_mul, eq_comm, abs_eq_zero] at hmagnitude
    simp [hmagnitude] at hneg
  have hsmall : |r| < 10 ^ (310 : ℤ) := by
    have hunit : (1 : ℚ) ≤ 10 ^ l.places := one_le_pow₀ (by norm_num)
    calc |r| ≤ |r| * 10 ^ l.places := le_mul_of_one_le_right (abs_nonneg r) hunit
      _ < 10 ^ 28 := hrange
      _ ≤ 10 ^ (310 : ℤ) := by
        rw [← zpow_natCast]
        exact zpow_le_zpow_right₀ (by norm_num) (by norm_num)
  rw [Binary64.ofDecimal_eq_nearest hsign (by rwa [hmagnitude]), hr]

/-- A mark that is no digit is left out of the separators only. -/
theorem filter_groups (w : l.Shown r) {mark : Char} {separator : List Char}
    (hmark : isAsciiDigit mark = false) (hseparator : separator.filter (· ≠ mark) = []) :
    (joinWith separator w.groups).filter (· ≠ mark) = w.whole := by
  have hgroups : (w.groups.map fun group => group.filter (· ≠ mark)) = w.groups := by
    refine (List.map_congr_left fun group hgroup => ?_).trans (List.map_id w.groups)
    refine Value.filter_ne_eq_self fun hmem => ?_
    rw [w.digits_of_mem_groups hgroup mark hmem] at hmark
    cases hmark
  rw [filter_joinWith, hgroups, hseparator, joinWith_nil, w.grouped.digits]

theorem text_eq (w : l.Shown r) : w.text = Decimal.signText (decide (r < 0)) ++
    (joinWith l.separator w.groups ++ if l.places = 0 then [] else l.point ++ w.fraction) := by
  simp only [text, Decimal.signText, decide_eq_true_eq]

/-- Neither mark is a digit. -/
theorem marks_not_mem {ds : List Char} (h : ∀ c ∈ ds, isAsciiDigit c = true) :
    ',' ∉ ds ∧ '.' ∉ ds :=
  ⟨fun hmem => absurd (h _ hmem) (by decide), fun hmem => absurd (h _ hmem) (by decide)⟩

theorem marks_not_mem_fraction (w : l.Shown r) : ',' ∉ w.fraction ∧ '.' ∉ w.fraction := by
  obtain ⟨n, hn, -⟩ := w.fraction_numeral
  exact marks_not_mem hn.digits

theorem marks_not_mem_signText (negative : Bool) :
    ',' ∉ Decimal.signText negative ∧ '.' ∉ Decimal.signText negative := by
  cases negative <;> decide

/-- What is not left out of a shown text: all but a separator that is white space. -/
theorem unmarked_text (w : l.Shown r) {point separator : List Char}
    (hpoint : Value.unmarked l.point = point)
    (hseparator : Value.unmarked l.separator = separator) :
    Value.unmarked w.text = Decimal.signText (decide (r < 0)) ++
      (joinWith separator w.groups ++ if l.places = 0 then [] else point ++ w.fraction) := by
  obtain ⟨n, hn, -⟩ := w.fraction_numeral
  have hsign : Value.unmarked (Decimal.signText (decide (r < 0))) =
      Decimal.signText (decide (r < 0)) :=
    Value.unmarked_eq_self fun c hc => (isNumberChar_of_mem_signText c hc).isNumberMark
  have hgroups : (w.groups.map fun group => Value.unmarked group) = w.groups := by
    refine (List.map_congr_left fun group hgroup => ?_).trans (List.map_id w.groups)
    exact Value.unmarked_eq_self fun c hc =>
      isNumberMark_of_isAsciiDigit (w.digits_of_mem_groups hgroup c hc)
  have hjoined : Value.unmarked (joinWith l.separator w.groups) =
      joinWith separator w.groups := by
    rw [← hseparator]
    exact (filter_joinWith _ _ _).trans (congrArg _ hgroups)
  have hfraction : Value.unmarked w.fraction = w.fraction :=
    Value.unmarked_eq_self fun c hc => isNumberMark_of_isAsciiDigit (hn.digits c hc)
  rw [text_eq, Value.unmarked_append, Value.unmarked_append, hsign, hjoined]
  split
  · rfl
  · rw [Value.unmarked_append, hpoint, hfraction]

/-- Commas between the groups are taken for what they are, whether or not a point follows. -/
theorem plainNumber_point {places : ℕ} (w : Shown ⟨places, ['.'], [',']⟩ r) :
    Value.plainNumber w.text = w.plain := by
  have hfraction := w.marks_not_mem_fraction
  have hsign := marks_not_mem_signText (decide (r < 0))
  have hpoint : Value.unmarked ['.'] = ['.'] := rfl
  have hcomma : Value.unmarked [','] = [','] := rfl
  have hmarks : Value.unmarked w.text = w.text :=
    (w.unmarked_text hpoint hcomma).trans w.text_eq.symm
  have hseparator : [','].filter (· ≠ ',') = [] := rfl
  have hgrouped := w.filter_groups (by decide : isAsciiDigit ',' = false) hseparator
  obtain ⟨first, rest, hgroups, hthree⟩ := w.exists_first
  have hdigits : ∀ group ∈ first :: rest, ',' ∉ group ∧ '.' ∉ group := by
    intro group hgroup
    exact marks_not_mem (w.digits_of_mem_groups (hgroups ▸ hgroup))
  have hfirst := hdigits first List.mem_cons_self
  have hform : w.text =
      joinWith [','] ((Decimal.signText (decide (r < 0)) ++ first) :: rest) ++
        if places = 0 then [] else '.' :: w.fraction := by
    rw [text_eq, hgroups, joinWith_append_cons, List.append_assoc]
    rfl
  have htail : (if places = 0 then [] else '.' :: w.fraction) = [] ∨
      (',' ∉ w.fraction ∧ '.' ∉ w.fraction) ∧
        (if places = 0 then [] else '.' :: w.fraction) = '.' :: w.fraction := by
    split
    · exact .inl rfl
    · exact .inr ⟨hfraction, rfl⟩
  have hplain : Value.plainNumber w.text = w.text.filter (· ≠ ',') := by
    rw [hform] at hmarks ⊢
    exact Value.plainNumber_of_commas hmarks
      ⟨by simp [hsign.1, hfirst.1], by simp [hsign.2, hfirst.2]⟩
      (fun group hgroup => ⟨hdigits group (List.mem_cons_of_mem _ hgroup), hthree group hgroup⟩)
      htail
  have htail' : ',' ∉ (if places = 0 then [] else '.' :: w.fraction) := by
    split
    · simp
    · simp [hfraction.1]
  rw [hplain, text_eq, List.filter_append, List.filter_append, Value.filter_ne_eq_self hsign.1,
    hgrouped]
  exact congrArg _ (congrArg _ (Value.filter_ne_eq_self htail'))

/-- A comma in front of two places is the decimal separator, whatever stands between the groups. -/
theorem plainNumber_comma {separator : List Char}
    (hseparator : separator = ['.'] ∨ separator = [' ']) (w : Shown ⟨2, [','], separator⟩ r) :
    Value.plainNumber w.text = w.plain := by
  have hfraction := w.marks_not_mem_fraction
  have hsign := marks_not_mem_signText (decide (r < 0))
  -- a blank is left out with the marks
  obtain ⟨left, hleft, hleft', hcomma⟩ : ∃ left, Value.unmarked separator = left ∧
      left.filter (· ≠ '.') = [] ∧ ',' ∉ left := by
    obtain rfl | rfl := hseparator
    · exact ⟨['.'], rfl, rfl, by decide⟩
    · exact ⟨[], rfl, rfl, by decide⟩
  have hunmarked : Value.unmarked w.text =
      (Decimal.signText (decide (r < 0)) ++ joinWith left w.groups) ++ ',' :: w.fraction := by
    have hpoint : Value.unmarked [','] = [','] := rfl
    rw [w.unmarked_text hpoint hleft, if_neg two_ne_zero, List.append_assoc]
    rfl
  have hbefore : ',' ∉ Decimal.signText (decide (r < 0)) ++ joinWith left w.groups := by
    have hjoined : ',' ∉ joinWith left w.groups :=
      joinWith_induction (P := fun s => ',' ∉ s) (by simp) (by simp +contextual) hcomma
        fun group hgroup => (marks_not_mem (w.digits_of_mem_groups hgroup)).1
    simp [hsign.1, hjoined]
  have hgrouped := w.filter_groups (by decide : isAsciiDigit '.' = false) hleft'
  rw [Value.plainNumber_congr (Value.unmarked_unmarked _).symm, hunmarked,
    Value.plainNumber_of_comma (by rw [← hunmarked, Value.unmarked_unmarked]) hbefore hfraction
      w.fraction_length.le, List.filter_append, Value.filter_ne_eq_self hsign.2, hgrouped,
    List.append_assoc]
  rfl

/-- A text in a usual layout, with currency marks and white space or without, is read as the number
    nearest to what it shows. -/
theorem readNumber_shown (hl : l.IsUsual) (w : l.Shown r)
    (hrange : |r| * 10 ^ l.places < 10 ^ 28) {t : String}
    (ht : Value.unmarked t.toList = Value.unmarked w.text) :
    (Value.text t).readNumber = .ok (Binary64.nearest r) := by
  have hplain : Value.plainNumber w.text = w.plain := by
    cases hl with
    | point => exact w.plainNumber_point
    | comma hseparator => exact w.plainNumber_comma hseparator
  refine Value.readNumber_text ?_
  rw [Value.plainNumber_congr ht, hplain, w.readFloat?_plain hrange]

end Shown
end Number.Layout
end RecordTemplate
