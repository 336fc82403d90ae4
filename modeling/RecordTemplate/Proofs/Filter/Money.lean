/-
  RecordTemplate.Proofs.Filter.Money

  Formatted money reads back.  What an amount is formatted as, in any currency, is read as the
  number nearest to the amount rounded to two places, and a number formatted with a point and
  commas as the number nearest to what it was rounded to.  A filter that reads a number therefore
  answers for the text as it does for this number (`Filter.formatted_reads_back`).
-/

import RecordTemplate.Proofs.Filter.Chains
import RecordTemplate.Proofs.Filter.Failures
import RecordTemplate.Proofs.Value.Formatted

namespace RecordTemplate

open RecordTemplate.Number RecordTemplate.Template RecordTemplate.Text

namespace Filter

/-! ## Filters that read a number -/

/-- The names of the filters that read a number from whatever reaches them. -/
def readerNames : List String := ["round", "abs", "percent", "percentage", "currency", "money"]

/-- A text that is read as the number `y`, also by every filter that reads one. -/
structure ReadsBack (t : String) (y : Binary64) : Prop where
  number : (Value.text t).readNumber = .ok y
  seen : ∀ context (i : Invocation), i.name ∈ readerNames →
    Registry.builtin.step context (.text t) i = Registry.builtin.step context (.float y) i

theorem render_float_ne_empty (y : Binary64) : (Value.float y).render ≠ "" := by
  cases y with
  | nan => decide
  | infinite negative => cases negative <;> decide
  | finite negative m e =>
    have hrender : (Value.float (.finite negative m e)).render =
        if Binary64.isWhole m e then intString (Binary64.truncate negative m e)
        else String.ofList (Binary64.text (.finite negative m e)) := rfl
    rw [hrender]
    split
    · rw [intString, Ne, String.ofList_eq_empty_iff]
      exact intText_ne_nil _
    · obtain ⟨negative', n, k, hread, -⟩ := Binary64.denotes_text negative m e
      rw [Ne, String.ofList_eq_empty_iff]
      exact (readFinite?_isSome_iff.1 (Option.isSome_iff_exists.2 ⟨_, hread⟩)).ne_nil

theorem render_text_ne_empty {t : String} {y : Binary64} (h : (Value.text t).readNumber = .ok y) :
    (Value.text t).render ≠ "" := by
  intro hrender
  have ht : t = "" := hrender
  rw [ht] at h
  cases h

/-- Values of which the same number is read are answered alike. -/
theorem apply_congr_of_readNumber (context : FilterContext) (args : List String) {v w : Value}
    (h : v.readNumber = w.readNumber) {y : Binary64} (hw : w.readNumber = .ok y)
    (hv' : v.render ≠ "") (hw' : w.render ≠ "") :
    ∀ f ∈ [rounded, absolute, percent, currency],
      f.apply context v args = f.apply context w args := by
  have horText : ∀ f : Binary64 → Except Failure Value,
      orText v v.readNumber f = orText w w.readNumber f := by
    intro f
    rw [h, hw]
    rfl
  have hcurrency : ∀ v : Value, v.render ≠ "" → currency.apply context v args =
      orText v v.readNumber fun x => do
        let c := Currency.ofCode (String.ofList (upper (textArgument args 0 "USD").toList))
        return .text (c.write (← formatNumber c.layout (.float x))) :=
    fun v hv => if_neg hv
  simp only [List.forall_mem_cons]
  refine ⟨horText _, horText _, horText _, ?_, by simp⟩
  rw [hcurrency v hv', hcurrency w hw', horText]

/-- What a reader of numbers answers depends on the number that it reads. -/
theorem ReadsBack.of_readNumber {t : String} {y : Binary64}
    (h : (Value.text t).readNumber = .ok y) : ReadsBack t y where
  number := h
  seen context i hname := by
    have hfloat : (Value.float y).readNumber = .ok y := rfl
    have hfilter : ∃ f ∈ [rounded, absolute, percent, currency],
        Registry.builtin.get? i.name = some f := by
      have hall : ∀ name ∈ readerNames, ∃ f ∈ [rounded, absolute, percent, currency],
          Registry.builtin.get? name = some f := by
        simp only [readerNames, List.forall_mem_cons]
        exact ⟨⟨rounded, by simp, rfl⟩, ⟨absolute, by simp, rfl⟩, ⟨percent, by simp, rfl⟩,
          ⟨percent, by simp, rfl⟩, ⟨currency, by simp, rfl⟩, ⟨currency, by simp, rfl⟩, by simp⟩
      exact hall i.name hname
    obtain ⟨f, hf, hget⟩ := hfilter
    have happly := apply_congr_of_readNumber context i.args (h.trans hfloat.symm) hfloat
      (render_text_ne_empty h) (render_float_ne_empty y) f hf
    simp only [Registry.step, hget, happly]

/-! ## Currencies -/

/-- Every currency has a usual layout and a symbol that is left out. -/
theorem Currency.isUsual_ofCode (code : String) : (Currency.ofCode code).layout.IsUsual ∧
    Value.unmarked (Currency.ofCode code).symbol.toList = [] := by
  unfold Currency.ofCode
  split
  · exact ⟨.comma (.inl rfl), by decide⟩
  · exact ⟨.point 2, by decide⟩
  · exact ⟨.comma (.inr rfl), by decide⟩
  · exact ⟨.comma (.inl rfl), by decide⟩
  · exact ⟨.point 2, by decide⟩

/-- A symbol without characters of its own to a reader, in front or behind, is left out. -/
theorem Currency.unmarked_write {c : Currency} (h : Value.unmarked c.symbol.toList = [])
    (amount : String) :
    Value.unmarked (c.write amount).toList = Value.unmarked amount.toList := by
  have hspace : Value.unmarked (if c.spaced then " " else "").toList = [] := by
    split <;> decide
  unfold Currency.write
  dsimp only
  split <;> simp [String.toList_append, Value.unmarked_append, h, hspace]

/-! ## Formatted numbers -/

section Formatted

variable {negative : Bool} {m : ℕ} {e : ℤ} {d r : ℚ}

/-- An amount of money is formatted as a text that is read as the rounded amount. -/
theorem currency_reads_back (hd : Denotes (Binary64.text (.finite negative m e)) d)
    (hr : IsRounded d 2 r) (hdigits : |r| * 10 ^ 2 < 10 ^ 28) (context : FilterContext)
    (args : List String) :
    ∃ t, currency.apply context (.float (.finite negative m e)) args = .ok (.text t) ∧
      (Value.text t).readNumber = .ok (Binary64.nearest r) := by
  let code := String.ofList (upper (textArgument args 0 "USD").toList)
  obtain ⟨husual, hsymbol⟩ := Currency.isUsual_ofCode code
  have hplaces := Currency.places_ofCode code
  have hdigits' : |r| * 10 ^ (Currency.ofCode code).layout.places < 10 ^ 28 := by
    rw [hplaces]
    exact hdigits
  obtain ⟨w, hw⟩ := formatNumber_shown (l := (Currency.ofCode code).layout) hd
    (by rw [hplaces]; exact hr) (by rw [hplaces]; decide) hdigits'
  refine ⟨(Currency.ofCode code).write (String.ofList w.text), ?_, ?_⟩
  · have hfloat : (Value.float (.finite negative m e)).readNumber =
        .ok (.finite negative m e) := rfl
    dsimp only [currency]
    rw [if_neg (render_float_ne_empty _), hfloat]
    dsimp only [orText]
    rw [hw]
    rfl
  · refine w.readNumber_shown husual hdigits' ?_
    rw [Currency.unmarked_write hsymbol, String.toList_ofList]

/-- With more places than the range of double precision has, what is left of twenty-nine digits
    is rounded to zero. -/
theorem nearest_eq_zero_of_places {q : ℚ} {places : ℕ} (h : |q| * 10 ^ places < 10 ^ 29)
    (hplaces : 359 ≤ places) : |q| < 1 ∧ ∃ zero, Binary64.nearest q = .zero zero := by
  have hpower : (10 : ℚ) ^ 330 * 10 ^ 29 ≤ 10 ^ places := by
    rw [← pow_add]
    exact pow_le_pow_right₀ (by norm_num) hplaces
  have hsmall : |q| * 10 ^ 330 < 1 := by
    refine lt_of_mul_lt_mul_right ?_ (by positivity : (0 : ℚ) ≤ 10 ^ 29)
    calc |q| * 10 ^ 330 * 10 ^ 29 = |q| * (10 ^ 330 * 10 ^ 29) := mul_assoc _ _ _
      _ ≤ |q| * 10 ^ places := by gcongr
      _ < 10 ^ 29 := h
      _ = 1 * 10 ^ 29 := (one_mul _).symm
  have hunit : (1 : ℚ) ≤ 10 ^ 330 := one_le_pow₀ (by norm_num)
  exact ⟨(le_mul_of_one_le_right (abs_nonneg q) hunit).trans_lt hsmall,
    Binary64.nearest_of_small hsmall⟩

/-- A number that is left as it is for its many places is read as a zero. -/
theorem display_reads_back {places : ℕ} (hd : Denotes (Binary64.text (.finite negative m e)) d)
    (hr : IsRounded d places r) (hdigits : |r| * 10 ^ places < 10 ^ 28) (hplaces : 359 ≤ places) :
    ∃ y, (Value.text (String.ofList (Binary64.text (.finite negative m e)))).readNumber = .ok y ∧
      y.eq (Binary64.nearest r) = true := by
  obtain ⟨negative', n, k, hread, hvalue⟩ := Value.readNumber_display hd
  have hnear : |d| * 10 ^ places < 10 ^ 29 := by
    have hunit : (0 : ℚ) < 10 ^ places := by positivity
    have htriangle : |d| ≤ |d - r| + |r| := by linarith [abs_sub_abs_le_abs_sub d r]
    calc |d| * 10 ^ places ≤ (|d - r| + |r|) * 10 ^ places := by gcongr
      _ = |d - r| * 10 ^ places + |r| * 10 ^ places := add_mul _ _ _
      _ < 1 + 10 ^ 28 := add_lt_add_of_le_of_lt hr.abs_sub_mul_le hdigits
      _ < 10 ^ 29 := by norm_num
  obtain ⟨hone, zero, hzero⟩ := nearest_eq_zero_of_places hnear hplaces
  obtain ⟨-, zero', hzero'⟩ := nearest_eq_zero_of_places
    (hdigits.trans (by norm_num : (10 : ℚ) ^ 28 < 10 ^ 29)) hplaces
  have hdecimal : ∃ zero, Binary64.ofDecimal negative' n k = .zero zero := by
    by_cases hn : n = 0
    · exact ⟨negative', by rw [Binary64.ofDecimal, if_pos hn]⟩
    · have hrange : (n : ℚ) * 10 ^ k < 10 ^ (310 : ℤ) := by
        rw [hvalue, decimalValue, abs_withSign, abs_of_nonneg (by positivity)] at hone
        exact hone.trans_le (one_le_zpow₀ (by norm_num) (by norm_num))
      exact ⟨zero, by rw [Binary64.ofDecimal_eq_nearest (.inl hn) hrange, ← hvalue, hzero]⟩
  obtain ⟨zero'', hzero''⟩ := hdecimal
  refine ⟨_, hread, ?_⟩
  rw [hzero'', hzero', Binary64.eq_zero_zero]

end Formatted

/-- Formatted numbers read back.  An amount in any currency is formatted as a text that is read as
    the number nearest to the amount rounded to two places, and by every filter of a chain that
    reads a number; a number formatted with a point and commas, as the number nearest to what it
    was rounded to.  Where there are more places than can be asked for, a zero may keep its sign. -/
theorem formatted_reads_back (negative : Bool) (m : ℕ) (e : ℤ) :
    ∃ d : ℚ, Denotes (Binary64.text (.finite negative m e)) d ∧
      (∀ d', Denotes (Binary64.text (.finite negative m e)) d' → d' = d) ∧
      (∀ r, IsRounded d 2 r → |r| * 10 ^ 2 < 10 ^ 28 →
        ∀ context (i : Invocation), i.name ∈ ["currency", "money"] → ∃ t,
          Registry.builtin.step context (.float (.finite negative m e)) i = .ok (.text t) ∧
            ReadsBack t (Binary64.nearest r)) ∧
      ∀ places r, IsRounded d places r → |r| * 10 ^ places < 10 ^ 28 → ∃ t y,
        formatNumber ⟨places, ['.'], [',']⟩ (.float (.finite negative m e)) = .ok t ∧
          ReadsBack t y ∧ y.eq (Binary64.nearest r) = true ∧
          (places ≤ 2000054 → y = Binary64.nearest r) ∧
          ∀ context args (asked : ℤ), intArgument args 0 2 = .ok asked → asked.toNat = places →
            textArgument args 1 "." = "." → textArgument args 2 "," = "," →
              Registry.builtin.step context (.float (.finite negative m e))
                ⟨"number_format", args⟩ = .ok (.text t) := by
  have hd := Binary64.denotes_text negative m e
  refine ⟨_, hd, fun d' hd' => hd'.unique hd, fun r hr hdigits context i hname => ?_,
    fun places r hr hdigits => ?_⟩
  · obtain ⟨t, ht, hread⟩ := currency_reads_back hd hr hdigits context i.args
    refine ⟨t, Registry.step_of_answered (f := currency) ?_ ht, .of_readNumber hread⟩
    obtain ⟨name, args⟩ := i
    obtain rfl | rfl : name = "currency" ∨ name = "money" := by simpa using hname
    all_goals rfl
  · -- with the usual places the text shows the rounded number, with more it is the number's own
    obtain ⟨t, y, ht, hread, heq, hexact⟩ : ∃ t y,
        formatNumber ⟨places, ['.'], [',']⟩ (.float (.finite negative m e)) = .ok t ∧
          (Value.text t).readNumber = .ok y ∧ y.eq (Binary64.nearest r) = true ∧
          (places ≤ 2000054 → y = Binary64.nearest r) := by
      obtain hplaces | hplaces := le_or_gt places Decimal.maxPlaces
      · obtain ⟨w, hw⟩ := formatNumber_shown (l := ⟨places, ['.'], [',']⟩) hd hr hplaces hdigits
        have hread := w.readNumber_shown (t := String.ofList w.text) (.point places) hdigits
          (by rw [String.toList_ofList])
        exact ⟨_, _, hw, hread, Binary64.eq_self (Binary64.ofRatio_ne_nan _ _ _), fun _ => rfl⟩
      · have htext := formatNumber_of_maxPlaces_lt (l := ⟨places, ['.'], [',']⟩) hplaces
          negative m e
        unfold Decimal.maxPlaces at hplaces
        obtain ⟨y, hread, heq⟩ := display_reads_back hd hr hdigits (by omega)
        exact ⟨_, y, htext, hread, heq, fun h => absurd h (by omega)⟩
    refine ⟨t, y, ht, .of_readNumber hread, heq, hexact, ?_⟩
    rintro context args asked hasked rfl hpoint hseparator
    refine Registry.step_of_answered (f := numberFormat) rfl ?_
    rw [numberFormat_apply hasked, hpoint, hseparator]
    have hpoint' : ".".toList = ['.'] := rfl
    have hseparator' : ",".toList = [','] := rfl
    rw [hpoint', hseparator', ht]
    rfl

/-- A debt of more than a million euros, with a half of a cent. -/
theorem formatted_reads_back_euro :
    Denotes (Binary64.text (.finite true 9876537 (-3))) (-9876537 / 8) ∧
      IsRounded (-9876537 / 8) 2 (-123456713 / 100) ∧
      |(-123456713 / 100 : ℚ)| * 10 ^ 2 < 10 ^ 28 ∧
      Registry.builtin.step Registry.newsContext (.float (.finite true 9876537 (-3)))
        ⟨"money", ["eur"]⟩ = .ok (.text "-1.234.567,13 €") ∧
      ReadsBack "-1.234.567,13 €" (Binary64.nearest (-123456713 / 100)) := by
  have hdenotes : Denotes (Binary64.text (.finite true 9876537 (-3))) (-9876537 / 8) :=
    ⟨true, 1234567125, -3, by decide +kernel, by norm_num [decimalValue, withSign]⟩
  have hrounded : IsRounded (-9876537 / 8) 2 (-123456713 / 100) := by
    have hunits : Binary64.unitsAt 1234567125 (-3) 2 = 123456713 := by decide +kernel
    have := isRounded_unitsAt true 1234567125 (-3) 2
    rw [hunits] at this
    convert this using 1 <;> norm_num [decimalValue, withSign]
  have hdigits : |(-123456713 / 100 : ℚ)| * 10 ^ 2 < 10 ^ 28 := by norm_num [abs_of_neg]
  obtain ⟨d, -, hd, hmoney, -⟩ := formatted_reads_back true 9876537 (-3)
  obtain rfl := hd _ hdenotes
  obtain ⟨t, hstep, hread⟩ :=
    hmoney _ hrounded hdigits Registry.newsContext ⟨"money", ["eur"]⟩ (by simp)
  have htext : Registry.builtin.step Registry.newsContext (.float (.finite true 9876537 (-3)))
      ⟨"money", ["eur"]⟩ = .ok (.text "-1.234.567,13 €") := by rfl
  obtain rfl : "-1.234.567,13 €" = t := by
    rw [htext] at hstep
    cases hstep
    rfl
  exact ⟨hdenotes, hrounded, hdigits, htext, hread⟩

end Filter
end RecordTemplate
