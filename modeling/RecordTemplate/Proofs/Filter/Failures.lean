/-
  RecordTemplate.Proofs.Filter.Failures

  The inputs on which the built-in filters fail (`Filter.Defeats`), and the chains that skip one
  of them for it.  What escapes the filters is an argument that stands for infinity, an integer
  beyond double precision, a text that only looks like a number, what is not a number where one is
  laid out or cut, a rounding to more than twenty-eight digits, and a moment that is beyond the
  clock or whose zone is a day or more away from UTC.
-/

import RecordTemplate.Filter.Registry
import RecordTemplate.Proofs.Filter.Context
import RecordTemplate.Proofs.Value.Reading

namespace RecordTemplate

open RecordTemplate.Calendar RecordTemplate.Number RecordTemplate.Render
open RecordTemplate.Template RecordTemplate.Text

variable {context : FilterContext} {v : Value} {args : List String}

/-! ## Arguments -/

/-- The first argument stands for infinity. -/
def InfiniteArgument (args : List String) : Prop :=
  ∃ s negative, args[0]? = some s ∧ readFloat? (trim s.toList) = some (.infinite negative)

theorem fails_toInteger {x : Binary64} :
    Fails x.toInteger ↔ x = .nan ∨ ∃ negative, x = .infinite negative := by
  cases x <;> simp [Binary64.toInteger]

theorem fails_intArgument {fallback : Int} :
    Fails (intArgument args 0 fallback) ↔ InfiniteArgument args := by
  have hread : Fails (intArgument? args 0) ↔
      ∃ negative, (args[0]?.bind fun s => readFloat? (trim s.toList)) =
        some (.infinite negative) := by
    have hfirst : argumentAt? args 0 = args[0]? := rfl
    unfold intArgument?
    rw [hfirst]
    -- only what is neither absent nor no number is cut to an integer
    generalize (args[0]?.bind fun s => readFloat? (trim s.toList)) = number
    cases number with
    | none => simp
    | some x => cases x <;> simp [fails_toInteger]
  unfold intArgument
  rw [fails_map, hread]
  simp only [Option.bind_eq_some_iff, InfiniteArgument]
  constructor
  · rintro ⟨negative, s, hs, hx⟩
    exact ⟨s, negative, hs, hx⟩
  · rintro ⟨s, negative, hs, hx⟩
    exact ⟨negative, s, hs, hx⟩

namespace Filter

/-! ## Falling back -/

theorem fails_orText {α : Type} {reading : Except Failure α} {f : α → Except Failure Value} :
    Fails (orText v reading f) ↔ Escapes reading ∨ ∃ a, reading = .ok a ∧ Fails (f a) := by
  cases reading with
  | ok a => simp [orText]
  | error e => cases he : e.isUnreadable <;> simp [orText, he]

theorem fails_onMoment {f : DateTime → Except Failure String} :
    Fails (onMoment context v f) ↔ v.LacksMoment context.now.date ∨
      ∃ t, v.readMoment context.now.date = .ok t ∧ Fails (f t) := by
  rw [← Value.escapes_readMoment]
  unfold onMoment
  cases v.readMoment context.now.date with
  | ok t => simp
  | error e => cases he : e.isUnreadable <;> simp [he]

/-! ## Numbers -/

/-- A layout fails on what is not a number, unless there are too many places. -/
theorem fails_formatNumber {l : Layout} {x : Binary64} :
    Fails (formatNumber l (.float x)) ↔ x = .nan ∧ l.places ≤ Decimal.maxPlaces := by
  have hread : (Value.float x).asBinary64 = .ok x := rfl
  unfold formatNumber
  rw [hread]
  unfold Layout.write?
  cases x with
  | nan => by_cases h : Decimal.maxPlaces < l.places <;> simp [h, not_le, not_lt.1]
  | infinite negative => simp
  | finite negative m e => simp

/-- What keeps a number from being laid out at the places of an argument. -/
def DefeatsLayout (x : Binary64) (args : List String) (fallback : Int) : Prop :=
  InfiniteArgument args ∨
    x = .nan ∧ ∃ places, intArgument args 0 fallback = .ok places ∧ places ≤ Decimal.maxPlaces

/-- What keeps a number from being rounded.  Without places the result must have an integer. -/
def DefeatsRounding (x : Binary64) (places : Int) : Prop :=
  match x with
  | .nan => places ≤ 0 ∨ (Decimal.maxPlaces : Int) < places
  | .infinite _ => True
  | .finite _ m e =>
    (Decimal.maxPlaces : Int) < places ∨
      10 ^ Decimal.precision ≤ Binary64.unitsAt (Binary64.shortest m e).1
        (Binary64.shortest m e).2 places.toNat

/-- The inputs on which the built-in filter of a name fails. -/
def Defeats (context : FilterContext) (v : Value) (args : List String) (name : String) : Prop :=
  match name with
  | "truncate" | "limit" => InfiniteArgument args
  | "number_format" =>
    -- the strict reading has its own failures, on which the filter does not fall back
    v.IsBeyondDouble ∨ v.IsSignaling ∨ v.IsFalseNumber ∨
      ∃ x, v.strictNumber? = .ok (some x) ∧ DefeatsLayout x args 2
  | "round" =>
    v.IsBeyondDouble ∨ ∃ x, v.readNumber = .ok x ∧ (InfiniteArgument args ∨
      ∃ places, intArgument args 0 0 = .ok places ∧ DefeatsRounding x places)
  | "abs" => v.IsBeyondDouble
  | "percent" => v.IsBeyondDouble ∨ ∃ x, v.readNumber = .ok x ∧ DefeatsLayout x args 0
  | "currency" => v.IsBeyondDouble ∨ v.readNumber = .ok .nan
  | "date_format" =>
    v.LacksMoment context.now.date ∨ ∃ t, v.readMoment context.now.date = .ok t ∧
      t.HasFarZone ∧ ∃ c ∈ DateTime.activeLetters (filledArgument args 0 defaultDateFormat).toList,
        c ∈ DateTime.zoneLetters
  | "relative_date" =>
    v.LacksMoment context.now.date ∨ ∃ t, v.readMoment context.now.date = .ok t ∧
      (context.now.HasFarZone ∨ t.HasFarZone)
  | _ => False

/-! ## Each filter -/

theorem fails_truncated : Fails (truncated.apply context v args) ↔ InfiniteArgument args :=
  fails_do_pure.trans fails_intArgument

theorem fails_limited : Fails (limited.apply context v args) ↔ InfiniteArgument args :=
  fails_map.trans (fails_do_pure.trans fails_intArgument)

/-- Laying out a number fails on the argument or on what is not a number. -/
theorem fails_layout {α : Type} {x : Binary64} {fallback : Int} {l : Int → Layout} {f : String → α}
    (hl : ∀ places, (l places).places = places.toNat) :
    Fails (do
      let places ← intArgument args 0 fallback
      return f (← formatNumber (l places) (.float x))) ↔ DefeatsLayout x args fallback := by
  rw [fails_do, fails_intArgument]
  simp only [fails_do_pure, fails_formatNumber, hl, Int.toNat_le]
  simp only [DefeatsLayout, and_left_comm, exists_and_left]

theorem fails_numberFormat :
    Fails (numberFormat.apply context v args) ↔ Defeats context v args "number_format" := by
  refine fails_do.trans ?_
  rw [Value.fails_strictNumber?, or_assoc, or_assoc]
  refine or_congr_right (or_congr_right (or_congr_right ?_))
  constructor
  · rintro ⟨number, hnumber, hfails⟩
    cases number with
    | none => exact absurd hfails fails_pure
    | some x => exact ⟨x, hnumber, (fails_layout fun _ => rfl).1 hfails⟩
  · rintro ⟨x, hx, hdefeats⟩
    exact ⟨some x, hx, (fails_layout fun _ => rfl).2 hdefeats⟩

/-- Without places an integer is asked for. -/
theorem fails_cut {x : Binary64} {places : Int} :
    Fails (if places ≤ 0 then return .int (← x.toInteger) else return .float x :
      Except Failure Value) ↔ places ≤ 0 ∧ Fails x.toInteger := by
  split
  · next h => rw [fails_do_pure, and_iff_right h]
  · next h => exact iff_of_false fails_pure fun hx => h hx.1

/-- A number is not rounded, or not to an integer although one is asked for. -/
theorem fails_rounding {x : Binary64} {places : Int} :
    Fails (do
      let x ← roundTo x places.toNat
      if places ≤ 0 then return .int (← x.toInteger) else return .float x :
        Except Failure Value) ↔ DefeatsRounding x places := by
  have hplaces : Decimal.maxPlaces < places.toNat ↔ (Decimal.maxPlaces : Int) < places := by omega
  simp only [fails_do, fails_cut, DefeatsRounding, ← hplaces]
  cases x with
  | nan =>
    by_cases h : Decimal.maxPlaces < places.toNat <;> simp [roundTo, fails_toInteger, h]
  | infinite negative => simp [roundTo]
  | finite negative m e =>
    dsimp only [roundTo]
    rw [← Binary64.roundTo?_eq_none_iff]
    cases hround : Decimal.roundTo? (Binary64.shortest m e).1 (Binary64.shortest m e).2
      places.toNat with
    | none => exact iff_of_true (.inl fails_error) rfl
    | some r =>
      refine iff_of_false ?_ (by simp)
      rintro (hfails | ⟨y, hy, hcut, hfails⟩)
      · exact fails_ok hfails
      · -- no places are left, so the rounded number is a whole one in range
        have hzero : places.toNat = 0 := Int.toNat_of_nonpos hcut
        obtain ⟨m', e', hfinite⟩ := Binary64.ofDecimal_of_roundTo? hround negative
        rw [hzero] at hy
        cases hy
        rw [Int.ofNat_zero, Int.neg_zero, hfinite] at hfails
        exact fails_ok hfails

theorem fails_rounded :
    Fails (rounded.apply context v args) ↔ Defeats context v args "round" := by
  refine fails_orText.trans ?_
  rw [Value.escapes_readNumber]
  refine or_congr_right (exists_congr fun x => and_congr_right fun _ => ?_)
  rw [fails_do, fails_intArgument]
  simp only [fails_rounding]

theorem fails_absolute :
    Fails (absolute.apply context v args) ↔ v.IsBeyondDouble := by
  refine fails_orText.trans ?_
  simp [Value.escapes_readNumber]

theorem fails_percent :
    Fails (percent.apply context v args) ↔ Defeats context v args "percent" := by
  refine fails_orText.trans ?_
  rw [Value.escapes_readNumber]
  refine or_congr_right (exists_congr fun x => and_congr_right fun _ => ?_)
  refine (fails_layout fun _ => rfl).trans ?_
  -- a percentage is no number exactly when the number is none
  unfold DefeatsLayout
  split
  · rfl
  · rw [Binary64.mulNat_eq_nan_iff]

/-- All currencies have two decimal places. -/
theorem Currency.places_ofCode (code : String) : (Currency.ofCode code).layout.places = 2 := by
  unfold Currency.ofCode
  split <;> rfl

theorem fails_currency :
    Fails (currency.apply context v args) ↔ Defeats context v args "currency" := by
  have hformat : ∀ code x,
      Fails (formatNumber (Currency.ofCode code).layout (.float x)) ↔ x = .nan := by
    intro code x
    rw [fails_formatNumber, Currency.places_ofCode]
    exact and_iff_left (by decide)
  by_cases hempty : v.render = ""
  · -- what has no text cannot be what the filter fails on
    have happly : currency.apply context v args = .ok (.text "") := if_pos hempty
    rw [happly]
    exact iff_of_false fails_ok fun hdefeats => Value.render_ne_empty hdefeats hempty
  · have happly : currency.apply context v args = orText v v.readNumber fun x => do
        let c := Currency.ofCode (String.ofList (upper (textArgument args 0 "USD").toList))
        return .text (c.write (← formatNumber c.layout (.float x))) := if_neg hempty
    rw [happly, fails_orText, Value.escapes_readNumber]
    simp only [fails_do_pure, hformat, exists_eq_right]
    rfl

theorem fails_dateFormat :
    Fails (dateFormat.apply context v args) ↔ Defeats context v args "date_format" := by
  refine fails_onMoment.trans (or_congr_right (exists_congr fun t => and_congr_right fun _ => ?_))
  exact fails_do_pure.trans DateTime.fails_format

theorem fails_relativeDate :
    Fails (relativeDate.apply context v args) ↔ Defeats context v args "relative_date" := by
  refine fails_onMoment.trans (or_congr_right (exists_congr fun t => and_congr_right fun _ => ?_))
  exact fails_do_pure.trans DateTime.fails_distance?_asUtc

end Filter

/-- The terms behind every field are a list of terms. -/
def FilterContext.HoldsTermLists (context : FilterContext) : Prop :=
  ∀ e ∈ context.terms, ∃ ts : List Term, e.2 = .list (ts.map .term)

/-- What stands behind a tag is null or a list of terms. -/
theorem FilterContext.HoldsTermLists.currentTerms (h : context.HoldsTermLists) :
    context.currentTerms = .null ∨
      ∃ ts : List Term, context.currentTerms = .list (ts.map .term) := by
  unfold FilterContext.currentTerms Entries.value Entries.value?
  cases context.termsKey with
  | none => exact .inl rfl
  | some key =>
    dsimp only
    cases hlookup : List.lookup key context.terms with
    | none => exact .inl rfl
    | some terms => exact .inr (h (key, terms) (mem_of_lookup hlookup))

namespace Filter

theorem fails_termLinks (h : context.HoldsTermLists) :
    ¬ Fails (termLinks.apply context v args) := by
  dsimp only [termLinks]
  obtain hnull | ⟨ts, hterms⟩ := h.currentTerms
  · rw [hnull]
    exact fails_ok
  · rw [hterms]
    split
    · exact fails_ok
    · exact fails_ok

/-! ## All filters -/

theorem fails_of_mem_textFilters :
    ∀ f ∈ textFilters, Fails (f.apply context v args) ↔ Defeats context v args f.name := by
  simp only [textFilters, List.forall_mem_cons]
  repeat' apply And.intro
  all_goals first | exact fails_truncated | exact iff_of_false fails_ok id | simp

theorem fails_of_mem_numberFilters :
    ∀ f ∈ numberFilters, Fails (f.apply context v args) ↔ Defeats context v args f.name := by
  simp only [numberFilters, List.forall_mem_cons]
  exact ⟨fails_numberFormat, fails_rounded, fails_absolute, fails_percent, fails_currency,
    by simp⟩

theorem fails_of_mem_dateFilters :
    ∀ f ∈ dateFilters, Fails (f.apply context v args) ↔ Defeats context v args f.name := by
  simp only [dateFilters, List.forall_mem_cons]
  exact ⟨fails_dateFormat, fails_relativeDate, by simp⟩

theorem fails_of_mem_listFilters (h : context.HoldsTermLists) :
    ∀ f ∈ listFilters, Fails (f.apply context v args) ↔ Defeats context v args f.name := by
  simp only [listFilters, List.forall_mem_cons]
  repeat' apply And.intro
  all_goals first
    | exact fails_limited
    | exact iff_of_false fails_ok id
    | exact iff_of_false (fails_termLinks h) id
    | simp

/-- A built-in filter fails exactly on the inputs that defeat it. -/
theorem fails_iff_defeats (h : context.HoldsTermLists) {f : Filter} (hf : f ∈ builtinFilters) :
    Fails (f.apply context v args) ↔ Defeats context v args f.name := by
  simp only [builtinFilters, List.mem_append] at hf
  obtain ((hf | hf) | hf) | hf := hf
  · exact fails_of_mem_textFilters f hf
  · exact fails_of_mem_numberFilters f hf
  · exact fails_of_mem_dateFilters f hf
  · exact fails_of_mem_listFilters h f hf

end Filter

/-! ## Chains -/

namespace Registry

variable {r : Registry}

/-- The value with which a chain goes on behind an invocation. -/
def advance (r : Registry) (context : FilterContext) (v : Value) (i : Invocation) : Value :=
  match r.step context v i with
  | .ok w => w
  | .error _ => v

theorem applyChain_cons {i : Invocation} {is : List Invocation} :
    (r.applyChain context v (i :: is)).1 = (r.applyChain context (r.advance context v i) is).1 := by
  rw [applyChain, advance]
  cases r.step context v i <;> rfl

theorem mem_faults_cons {fault : ChainFault} {i : Invocation} {is : List Invocation} :
    fault ∈ (r.applyChain context v (i :: is)).2 ↔ r.step context v i = .error fault ∨
      fault ∈ (r.applyChain context (r.advance context v i) is).2 := by
  rw [applyChain, advance]
  cases r.step context v i with
  | ok w => simp
  | error fault' => simp [eq_comm]

/-- A chain notes a fault for an invocation exactly when the value that reached it, which the
    chain up to there has made, has this fault. -/
theorem mem_faults_iff {fault : ChainFault} {is : List Invocation} :
    fault ∈ (r.applyChain context v is).2 ↔ ∃ before i after, is = before ++ i :: after ∧
      r.step context (r.applyChain context v before).1 i = .error fault := by
  induction is generalizing v with
  | nil => simp [applyChain]
  | cons j is ih =>
    rw [mem_faults_cons, ih]
    constructor
    · rintro (hstep | ⟨before, i, after, rfl, hstep⟩)
      · exact ⟨[], j, is, rfl, hstep⟩
      · exact ⟨j :: before, i, after, rfl, by rwa [applyChain_cons]⟩
    · rintro ⟨before, i, after, his, hstep⟩
      cases before with
      | nil =>
        cases his
        exact .inl hstep
      | cons k before =>
        cases his
        rw [applyChain_cons] at hstep
        exact .inr ⟨before, i, after, rfl, hstep⟩

/-- Whether a chain notes that a filter has failed. -/
def NotesFailure (r : Registry) (context : FilterContext) (v : Value) (is : List Invocation) :
    Prop :=
  ∃ fault ∈ (r.applyChain context v is).2, fault.diagnostic.code = "filter_failed"

/-- An invocation is noted as failed when its filter is known and fails. -/
theorem step_failed_iff {i : Invocation} :
    (∃ fault, r.step context v i = .error fault ∧ fault.diagnostic.code = "filter_failed") ↔
      ∃ f, r.get? i.name = some f ∧ Fails (f.apply context v i.args) := by
  unfold step
  cases r.get? i.name with
  | none => simp [ChainFault.diagnostic]
  | some f => cases happly : f.apply context v i.args <;> simp [ChainFault.diagnostic, happly]

theorem notesFailure_iff {is : List Invocation} :
    r.NotesFailure context v is ↔ ∃ before i after f, is = before ++ i :: after ∧
      r.get? i.name = some f ∧
        Fails (f.apply context (r.applyChain context v before).1 i.args) := by
  simp only [NotesFailure, mem_faults_iff]
  constructor
  · rintro ⟨fault, ⟨before, i, after, his, hstep⟩, hcode⟩
    obtain ⟨f, hf, hfails⟩ := step_failed_iff.1 ⟨fault, hstep, hcode⟩
    exact ⟨before, i, after, f, his, hf, hfails⟩
  · rintro ⟨before, i, after, f, his, hf, hfails⟩
    obtain ⟨fault, hstep, hcode⟩ := step_failed_iff.2 ⟨f, hf, hfails⟩
    exact ⟨fault, ⟨before, i, after, his, hstep⟩, hcode⟩

/-- A record with a term, on a leap day. -/
def newsContext : FilterContext :=
  { terms := [("tags", .list [.term { name := "News" }])], termsKey := some "tags",
    now := ⟨⟨2024, 2, 29, by decide⟩, .midnight, none⟩ }

theorem holdsTermLists_newsContext : newsContext.HoldsTermLists := by
  intro e he
  simp only [newsContext, List.mem_singleton] at he
  exact ⟨[{ name := "News" }], by rw [he]; rfl⟩

end Registry
end RecordTemplate
