/-
  RecordTemplate.Proofs.Number.Grouped

  Numbers laid out with a fixed count of decimal places.  What a layout shows is told by the number
  alone (`Layout.Shown`): its sign, its whole part without superfluous zeros in groups of three
  digits of which only the first may be shorter, and as many digits of its fraction as there are
  places.  A double precision number is shown as the decimal that its text denotes, rounded
  (`formatNumber_rounds`).
-/

import Mathlib.Algebra.Order.Floor.Semifield
import RecordTemplate.Filter.Number
import RecordTemplate.Proofs.Number.Denoted

namespace RecordTemplate

open RecordTemplate.Number RecordTemplate.Text

namespace Number

/-! ## Groups of digits -/

/-- Groups into which digits are cut from the right: three digits in each, and one to three in the
    first. -/
structure IsGrouped (ds : List Char) (groups : List (List Char)) : Prop where
  digits : groups.flatten = ds
  first : ∀ g, groups.head? = some g → 1 ≤ g.length ∧ g.length ≤ 3
  others : ∀ g ∈ groups.tail, g.length = 3

theorem inThrees_spec (ds : List Char) (h : ds.length % 3 = 0) :
    (inThrees ds).flatten = ds ∧ ∀ g ∈ inThrees ds, g.length = 3 := by
  fun_induction inThrees ds with
  | case1 a b c rest ih =>
    have hrest : rest.length % 3 = 0 := by
      simp only [List.length_cons] at h
      omega
    obtain ⟨hflatten, hthree⟩ := ih hrest
    refine ⟨by simp [hflatten], ?_⟩
    intro g hg
    obtain rfl | hg := List.mem_cons.1 hg
    · rfl
    · exact hthree g hg
  | case2 => exact ⟨rfl, by simp⟩
  | case3 short hlong hempty =>
    -- one or two digits are no multiple of three
    match short, hlong, hempty with
    | [_], _, _ => cases h
    | [_, _], _, _ => cases h
    | a :: b :: c :: rest, hlong, _ => exact absurd rfl (hlong a b c rest)

theorem isGrouped_groups {ds : List Char} : IsGrouped ds (groups ds) := by
  unfold groups
  dsimp only
  split
  · next h =>
    obtain ⟨hflatten, hthree⟩ := inThrees_spec ds h
    refine ⟨hflatten, fun g hg => ?_, fun g hg => hthree g (List.mem_of_mem_tail hg)⟩
    have := hthree g (List.mem_of_mem_head? hg)
    omega
  · next h =>
    have hrest : (ds.drop (ds.length % 3)).length % 3 = 0 := by
      rw [List.length_drop]
      omega
    obtain ⟨hflatten, hthree⟩ := inThrees_spec _ hrest
    refine ⟨?_, ?_, hthree⟩
    · rw [List.flatten_cons, hflatten, List.take_append_drop]
    · rintro g ⟨⟩
      rw [List.length_take]
      omega

/-- Only zero is written with a leading zero. -/
theorem digits_eq_zero_of_head {n : ℕ} (h : (digits n).head? = some '0') : digits n = ['0'] := by
  induction n using Nat.strongRecOn with
  | ind n ih =>
    obtain hsmall | hlarge := Nat.lt_or_ge n 10
    · rw [digits, Nat.toDigits_of_lt_base hsmall] at h ⊢
      simpa using h
    · have hsplit : digits n = digits (n / 10) ++ [(n % 10).digitChar] :=
        Nat.toDigits_of_base_le (by decide) hlarge
      have hhead : (digits (n / 10)).head? = some '0' := by
        rwa [hsplit, List.head?_append_of_ne_nil _ (digits_ne_nil _)] at h
      -- the whole tens would be none
      have hvalue := (isNumeral_digits (n / 10)).value
      rw [ih (n / 10) (Nat.div_lt_self (by omega) (by decide)) hhead] at hvalue
      have hzero : digitsValue ['0'] = 0 := by decide
      omega

/-! ## What a layout shows -/

/-- The parts of the text that a layout shows for a number. -/
structure Layout.Shown (l : Layout) (r : ℚ) where
  whole : List Char
  groups : List (List Char)
  fraction : List Char
  whole_numeral : IsNumeral whole ⌊|r|⌋₊
  whole_ne_nil : whole ≠ []
  no_zeros : whole.head? = some '0' → whole = ['0']
  grouped : IsGrouped whole groups
  fraction_numeral : ∃ n : ℕ, IsNumeral fraction n ∧ (n : ℚ) = (|r| - ⌊|r|⌋₊) * 10 ^ l.places
  fraction_length : fraction.length = l.places

/-- The text of its parts: a minus for what is below zero, separators between the groups, and a
    point with the fraction if there are places for it. -/
def Layout.Shown.text {l : Layout} {r : ℚ} (w : l.Shown r) : List Char :=
  (if r < 0 then ['-'] else []) ++ (joinWith l.separator w.groups ++
    if l.places = 0 then [] else l.point ++ w.fraction)

/-- A count of units of the last place is shown as the number that it comes to. -/
theorem Layout.exists_shown (l : Layout) (negative : Bool) (units : ℕ) :
    ∃ w : l.Shown (withSign negative (units / 10 ^ l.places)), w.text = l.text negative units := by
  have hunit : 0 < 10 ^ l.places := Nat.pow_pos (by decide)
  have hnonneg : (0 : ℚ) ≤ units / 10 ^ l.places := by positivity
  have hcast : (units : ℚ) / 10 ^ l.places = (units : ℚ) / (10 ^ l.places : ℕ) := by push_cast; rfl
  have hfloor : ⌊|withSign negative (units / 10 ^ l.places)|⌋₊ = units / 10 ^ l.places := by
    rw [abs_withSign, abs_of_nonneg hnonneg, hcast, Nat.floor_div_eq_div]
  have hrest : ((units % 10 ^ l.places : ℕ) : ℚ) =
      (|withSign negative (units / 10 ^ l.places)| -
        ⌊|withSign negative (units / 10 ^ l.places)|⌋₊) * 10 ^ l.places := by
    rw [hfloor, abs_withSign, abs_of_nonneg hnonneg, sub_mul,
      div_mul_cancel₀ _ (by positivity)]
    have hsplit : (10 ^ l.places * (units / 10 ^ l.places : ℕ) + (units % 10 ^ l.places : ℕ) : ℚ) =
        units := by exact_mod_cast Nat.div_add_mod units (10 ^ l.places)
    linarith
  refine ⟨⟨digits (units / 10 ^ l.places), Number.groups (digits (units / 10 ^ l.places)),
    if l.places = 0 then [] else padded l.places (units % 10 ^ l.places), ?_, digits_ne_nil _,
    digits_eq_zero_of_head, isGrouped_groups, ⟨_, ?_, hrest⟩, ?_⟩, ?_⟩
  · rw [hfloor]
    exact isNumeral_digits _
  · split
    · next hzero =>
      rw [hzero, pow_zero, Nat.mod_one]
      exact isNumeral_nil
    · exact isNumeral_padded _ _
  · split
    · next hzero => exact hzero.symm
    · next hplaces => exact length_padded (by omega) (Nat.mod_lt _ hunit)
  · have hsign : withSign negative (units / 10 ^ l.places) < 0 ↔ negative = true ∧ units ≠ 0 := by
      rw [withSign_neg_iff hnonneg, Ne, Ne, div_eq_zero_iff]
      simp
    have hminus : ∀ s : List Char, (if negative = true ∧ units ≠ 0 then '-' :: s else s) =
        (if withSign negative (units / 10 ^ l.places) < 0 then ['-'] else []) ++ s := by
      intro s
      simp only [hsign]
      split <;> rfl
    unfold Layout.Shown.text Layout.text
    dsimp only [Nat.pow_eq]
    rw [hminus, List.append_assoc]
    by_cases hzero : l.places = 0
    · simp only [if_pos hzero]
    · simp only [if_neg hzero]

end Number

namespace Filter

/-! ## Formatted numbers -/

/-- A finite number is rounded and laid out, or written as it is. -/
theorem formatNumber_finite (l : Layout) (negative : Bool) (m : ℕ) (e : ℤ) :
    formatNumber l (.float (.finite negative m e)) = .ok (String.ofList
      (((Decimal.roundTo? (Binary64.shortest m e).1 (Binary64.shortest m e).2 l.places).map
        (l.text negative)).getD (Binary64.text (.finite negative m e)))) := by
  have hread : (Value.float (.finite negative m e)).asBinary64 = .ok (.finite negative m e) := rfl
  unfold formatNumber
  rw [hread]
  dsimp only [Layout.write?]
  cases Decimal.roundTo? (Binary64.shortest m e).1 (Binary64.shortest m e).2 l.places with
  | none => rfl
  | some units => rfl

/-- A number that can be rounded to the places shows what it is rounded to. -/
theorem formatNumber_shown {l : Layout} {negative : Bool} {m : ℕ} {e : ℤ} {d r : ℚ}
    (hd : Denotes (Binary64.text (.finite negative m e)) d) (hr : IsRounded d l.places r)
    (hplaces : l.places ≤ Decimal.maxPlaces) (hdigits : |r| * 10 ^ l.places < 10 ^ 28) :
    ∃ w : l.Shown r,
      formatNumber l (.float (.finite negative m e)) = .ok (String.ofList w.text) := by
  let c := (Binary64.shortest m e).1
  let k := (Binary64.shortest m e).2
  obtain rfl := hd.unique (Binary64.denotes_text negative m e)
  obtain rfl := hr.unique (isRounded_unitsAt negative c k l.places)
  have hunits : Binary64.unitsAt c k l.places < 10 ^ Decimal.precision := by
    rw [abs_withSign, abs_of_nonneg (by positivity), div_mul_cancel₀ _ (by positivity)] at hdigits
    exact_mod_cast hdigits
  have hround := roundTo?_eq_unitsAt hplaces hunits
  obtain ⟨w, hw⟩ := Layout.exists_shown l negative (Binary64.unitsAt c k l.places)
  refine ⟨w, ?_⟩
  rw [formatNumber_finite, hround, hw]
  rfl

/-- Beyond the places that can be asked for a number is left as it is. -/
theorem formatNumber_of_maxPlaces_lt {l : Layout} (h : Decimal.maxPlaces < l.places)
    (negative : Bool) (m : ℕ) (e : ℤ) :
    formatNumber l (.float (.finite negative m e)) =
      .ok (String.ofList (Binary64.text (.finite negative m e))) := by
  have hround : Decimal.roundTo? (Binary64.shortest m e).1 (Binary64.shortest m e).2 l.places =
      none := Binary64.roundTo?_eq_none_iff.2 (.inl h)
  rw [formatNumber_finite, hround]
  rfl

theorem numberFormat_apply {context : FilterContext} {x : Binary64} {args : List String}
    {places : ℤ} (h : intArgument args 0 2 = .ok places) :
    numberFormat.apply context (.float x) args =
      (formatNumber ⟨places.toNat, (textArgument args 1 ".").toList,
        (textArgument args 2 ",").toList⟩ (.float x)).map .text := by
  have hread : (Value.float x).strictNumber? = .ok (some x) := rfl
  dsimp only [numberFormat]
  rw [hread, h]
  rfl

/-- A number is laid out as the decimal that its text denotes, rounded to the places, as long as
    there are not too many of them, and not too many digits.  A layout with more places than can
    be asked for leaves every number as it is, zero too. -/
theorem formatNumber_rounds (negative : Bool) (m : ℕ) (e places : ℤ)
    (point separator : List Char) :
    ∃ d r : ℚ, Denotes (Binary64.text (.finite negative m e)) d ∧
      (∀ d', Denotes (Binary64.text (.finite negative m e)) d' → d' = d) ∧
      IsRounded d places.toNat r ∧ (∀ r', IsRounded d places.toNat r' → r' = r) ∧
      (places ≤ 2000054 → |r| * 10 ^ places.toNat < 10 ^ 28 →
        ∃ w : Layout.Shown ⟨places.toNat, point, separator⟩ r,
          formatNumber ⟨places.toNat, point, separator⟩ (.float (.finite negative m e)) =
            .ok (String.ofList w.text)) ∧
      (2000054 < places →
        formatNumber ⟨places.toNat, point, separator⟩ (.float (.finite negative m e)) =
          .ok (String.ofList (Binary64.text (.finite negative m e)))) ∧
      ∀ context args, intArgument args 0 2 = .ok places →
        numberFormat.apply context (.float (.finite negative m e)) args =
          (formatNumber ⟨places.toNat, (textArgument args 1 ".").toList,
            (textArgument args 2 ",").toList⟩ (.float (.finite negative m e))).map .text := by
  have hd := Binary64.denotes_text negative m e
  obtain ⟨r, hr⟩ := exists_isRounded
    (decimalValue negative (Binary64.shortest m e).1 (Binary64.shortest m e).2) places.toNat
  refine ⟨_, r, hd, fun d' hd' => hd'.unique hd, hr, fun r' hr' => hr'.unique hr,
    fun hplaces hdigits => ?_, fun hplaces => ?_, fun context args => numberFormat_apply⟩
  · have hmax : places.toNat ≤ Decimal.maxPlaces := by
      unfold Decimal.maxPlaces
      omega
    exact formatNumber_shown (l := ⟨places.toNat, point, separator⟩) hd hr hmax hdigits
  · have hmax : Decimal.maxPlaces < places.toNat := by
      unfold Decimal.maxPlaces
      omega
    exact formatNumber_of_maxPlaces_lt (l := ⟨places.toNat, point, separator⟩) hmax negative m e

/-- A half below minus 999999 carries through all digits, and into a new group. -/
theorem formatNumber_rounds_carry :
    Denotes (Binary64.text (.finite true 1999999 (-1))) (-1999999 / 2) ∧
      IsRounded (-1999999 / 2) 0 (-1000000) ∧ |(-1000000 : ℚ)| * 10 ^ 0 < 10 ^ 28 ∧
      (∃ w : Layout.Shown ⟨0, [','], ['.', '.']⟩ (-1000000),
        formatNumber ⟨0, [','], ['.', '.']⟩ (.float (.finite true 1999999 (-1))) =
          .ok (String.ofList w.text)) ∧
      formatNumber ⟨0, [','], ['.', '.']⟩ (.float (.finite true 1999999 (-1))) =
        .ok "-1..000..000" := by
  have hdenotes : Denotes (Binary64.text (.finite true 1999999 (-1))) (-1999999 / 2) :=
    ⟨true, 9999995, -1, by decide +kernel, by norm_num [decimalValue, withSign]⟩
  have hrounded : IsRounded (-1999999 / 2) 0 (-1000000) := by
    have hunits : Binary64.unitsAt 9999995 (-1) 0 = 1000000 := by decide +kernel
    have := isRounded_unitsAt true 9999995 (-1) 0
    rw [hunits] at this
    convert this using 1 <;> norm_num [decimalValue, withSign]
  have hdigits : |(-1000000 : ℚ)| * 10 ^ 0 < 10 ^ 28 := by norm_num
  obtain ⟨d, r, -, hd, -, hr, hshown, -⟩ :=
    formatNumber_rounds true 1999999 (-1) 0 [','] ['.', '.']
  obtain rfl := hd _ hdenotes
  obtain rfl := hr _ hrounded
  exact ⟨hdenotes, hrounded, hdigits, hshown (by decide) hdigits, by rfl⟩

/-- Not every number is rounded to every count of places: with more places than can be asked for
    not even zero gets them. -/
theorem not_forall_formatNumber_rounds :
    ¬ ∀ (negative : Bool) (m : ℕ) (e places : ℤ) (point separator : List Char) (d r : ℚ),
      Denotes (Binary64.text (.finite negative m e)) d → IsRounded d places.toNat r →
        |r| * 10 ^ places.toNat < 10 ^ 28 →
          ∃ w : Layout.Shown ⟨places.toNat, point, separator⟩ r,
            formatNumber ⟨places.toNat, point, separator⟩ (.float (.finite negative m e)) =
              .ok (String.ofList w.text) := by
  intro h
  have hdenotes : Denotes (Binary64.text (.finite false 0 (-1074))) 0 := by
    have := Binary64.denotes_text false 0 (-1074)
    simpa [Binary64.shortest, decimalValue, withSign] using this
  obtain ⟨w, hw⟩ := h false 0 (-1074) 2000055 ['.'] [','] 0 0 hdenotes (isRounded_zero _)
    (by rw [abs_zero, zero_mul]; norm_num)
  have hmax : Decimal.maxPlaces < (2000055 : ℤ).toNat := by
    unfold Decimal.maxPlaces
    omega
  rw [formatNumber_of_maxPlaces_lt hmax] at hw
  have htext : w.text = ['0', '.', '0'] := (String.ofList_inj.1 (Except.ok.inj hw)).symm
  -- the fraction alone would be longer than that
  have hlength := congrArg List.length htext
  have hfraction := w.fraction_length
  have hplaces : ((2000055 : ℤ).toNat = 0) = False := by
    rw [eq_iff_iff, iff_false]
    omega
  simp only [Layout.Shown.text, hplaces, if_false, List.length_append, hfraction,
    List.length_cons, List.length_nil] at hlength
  omega

end Filter
end RecordTemplate
