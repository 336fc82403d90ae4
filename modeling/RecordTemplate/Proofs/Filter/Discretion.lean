/-
  RecordTemplate.Proofs.Filter.Discretion

  What filters do to the public view of a value.

  A filter is discreet if it makes of a view what it makes of the value: the private attributes of
  objects change neither its answer nor its failure.  All built-in filters are
  (`Filter.discreet_of_mem_builtinFilters`), since they read a value as text, as items, as a number
  or as a moment, and what they hand on is the value itself or a scalar.  A chain of discreet
  filters leaves the same faults for a view (`Registry.applyChain_publicView`).
-/

import RecordTemplate.Proofs.Filter.Context
import RecordTemplate.Proofs.Value.PublicView

namespace RecordTemplate

open RecordTemplate.Template

/-- A context that knows only the views of terms. -/
def FilterContext.publicView (c : FilterContext) : FilterContext :=
  { c with terms := Value.publicEntries c.terms }

theorem FilterContext.currentTerms_publicView (c : FilterContext) :
    c.publicView.currentTerms = c.currentTerms.publicView := by
  unfold currentTerms publicView
  cases c.termsKey with
  | none => rfl
  | some key => exact Value.value_publicEntries c.terms key

namespace Filter

/-! ## Answers -/

/-- An answer with which no attribute of an object is handed on. -/
def AnswersPublic (x : Except Failure Value) : Prop := x.map Value.publicView = x

namespace AnswersPublic

variable {α : Type} {x : Except Failure α}

theorem bind {f : α → Except Failure Value} (h : ∀ a, AnswersPublic (f a)) :
    AnswersPublic (x >>= f) := by
  cases x with
  | error e => rfl
  | ok a => exact h a

theorem map {f : α → Value} (h : ∀ a, (f a).publicView = f a) : AnswersPublic (x.map f) := by
  cases x with
  | error e => rfl
  | ok a => exact congrArg Except.ok (h a)

theorem orText {v : Value} {f : α → Except Failure Value} (h : ∀ a, AnswersPublic (f a)) :
    AnswersPublic (Filter.orText v x f) := by
  unfold Filter.orText
  split
  · exact h _
  · split <;> rfl

theorem onMoment {c : FilterContext} {v : Value}
    {f : Calendar.DateTime → Except Failure String} : AnswersPublic (Filter.onMoment c v f) := by
  unfold Filter.onMoment
  split
  · exact map fun _ => rfl
  · split <;> rfl

end AnswersPublic

/-! ## Built-in filters -/

/-- A filter that makes of a view what it makes of the value. -/
def Discreet (f : FilterFunction) : Prop :=
  ∀ c v args, f c.publicView v.publicView args = (f c v args).map Value.publicView

theorem Discreet.of_answersPublic {f : FilterFunction}
    (hsame : ∀ c v args, f c.publicView v.publicView args = f c v args)
    (h : ∀ c v args, AnswersPublic (f c v args)) : Discreet f :=
  fun c v args => (hsame c v args).trans (h c v args).symm

theorem discreet_onText (g : List String → List Char → List Char) : Discreet (onText g) :=
  .of_answersPublic (fun _ _ _ => by simp only [onText, Value.render_publicView])
    fun _ _ _ => rfl

theorem discreet_onItems (g : List String → List String → Except Failure (List String)) :
    Discreet (onItems g) :=
  .of_answersPublic (fun _ _ _ => by simp only [onItems, Value.toItems_publicView])
    fun _ _ _ => .map fun _ => rfl

theorem discreet_truncated : Discreet truncated.apply :=
  .of_answersPublic (fun _ _ _ => by simp only [truncated, Value.render_publicView])
    fun _ _ _ => .bind fun _ => rfl

theorem discreet_defaulted : Discreet defaulted.apply := by
  intro c v args
  simp only [defaulted, Value.render_publicView, Except.map]
  split <;> rfl

theorem discreet_boolean : Discreet boolean.apply := by
  intro c v args
  have hrender := v.render_publicView
  cases v with
  | list vs | tuple vs | set vs | object es | mapping es =>
    exact congrArg (fun s => Except.ok (Value.bool (trueWords.contains (wordOf s)))) hrender
  | _ => rfl

theorem discreet_of_mem_textFilters : ∀ f ∈ textFilters, Discreet f.apply := by
  simp only [textFilters, List.forall_mem_cons, uppercase, lowercase, capitalized, titled, trimmed,
    withoutTags, replaced, appended, prepended, discreet_onText, discreet_truncated,
    discreet_defaulted, discreet_boolean, true_and, List.not_mem_nil, false_implies, implies_true]

theorem discreet_of_mem_numberFilters : ∀ f ∈ numberFilters, Discreet f.apply := by
  simp only [numberFilters, List.forall_mem_cons]
  refine ⟨?_, ?_, ?_, ?_, ?_, by simp⟩
  · refine .of_answersPublic (fun c v args => ?_) fun c v args => ?_
    · simp only [numberFormat, Value.strictNumber?_publicView, Value.render_publicView]
    · refine .bind fun x => ?_
      cases x with
      | none => rfl
      | some x => exact .bind fun _ => .bind fun _ => rfl
  · refine .of_answersPublic (fun c v args => ?_) fun c v args => ?_
    · simp only [rounded, orText, Value.readNumber_publicView, Value.render_publicView]
    · refine .orText fun x => .bind fun places => .bind fun y => ?_
      split
      · exact .bind fun _ => rfl
      · rfl
  · refine .of_answersPublic (fun c v args => ?_) fun c v args => .orText fun _ => rfl
    simp only [absolute, orText, Value.readNumber_publicView, Value.render_publicView]
  · refine .of_answersPublic (fun c v args => ?_) fun c v args =>
      .orText fun _ => .bind fun _ => .bind fun _ => rfl
    simp only [percent, orText, Value.readNumber_publicView, Value.render_publicView]
    rfl
  · refine .of_answersPublic (fun c v args => ?_) fun c v args => ?_
    · simp only [currency, orText, Value.readNumber_publicView, Value.render_publicView]
    · unfold currency
      dsimp only
      split
      · rfl
      · exact .orText fun _ => .bind fun _ => rfl

theorem discreet_of_mem_dateFilters : ∀ f ∈ dateFilters, Discreet f.apply := by
  simp only [dateFilters, List.forall_mem_cons]
  refine ⟨?_, ?_, by simp⟩
  · refine .of_answersPublic (fun c v args => ?_) fun c v args => .onMoment
    simp only [dateFormat, onMoment, Value.readMoment_publicView]
    rfl
  · refine .of_answersPublic (fun c v args => ?_) fun c v args => .onMoment
    simp only [relativeDate, onMoment, Value.readMoment_publicView]
    rfl

theorem discreet_termLinks : Discreet termLinks.apply := by
  intro c v args
  simp only [termLinks, c.currentTerms_publicView, Value.isPresent_publicView,
    Value.elements_publicView]
  split
  · cases c.currentTerms.elements with
    | error e => rfl
    | ok items =>
      exact congrArg (fun ts => Except.ok (Value.text (String.intercalate _ (List.map termLink ts))))
        (Value.filterMap_term?_publicViews items)
  · rfl

theorem discreet_of_mem_listFilters : ∀ f ∈ listFilters, Discreet f.apply := by
  simp only [listFilters, List.forall_mem_cons, limited, sorted, excluded, discreet_onItems,
    discreet_termLinks, true_and]
  refine ⟨?_, ?_, ?_, ?_, ?_, by simp⟩
  all_goals
    refine .of_answersPublic (fun _ _ _ => ?_) fun _ _ _ => rfl
    simp only [joined, wrapped, first, last, count, Value.toItems_publicView]

/-- Built-in filters do not tell a value from its view. -/
theorem discreet_of_mem_builtinFilters {f : Filter} (h : f ∈ builtinFilters) :
    Discreet f.apply := by
  simp only [builtinFilters, List.mem_append] at h
  obtain ((h | h) | h) | h := h
  · exact discreet_of_mem_textFilters f h
  · exact discreet_of_mem_numberFilters f h
  · exact discreet_of_mem_dateFilters f h
  · exact discreet_of_mem_listFilters f h

end Filter

/-! ## Chains -/

namespace Registry

/-- All filters of the registry are discreet. -/
def IsDiscreet (r : Registry) : Prop := ∀ name f, r.get? name = some f → Filter.Discreet f.apply

theorem IsBuiltin.isDiscreet {r : Registry} (h : r.IsBuiltin) : r.IsDiscreet :=
  fun name f hget => Filter.discreet_of_mem_builtinFilters (h name f hget)

variable {r : Registry}

theorem step_publicView (h : r.IsDiscreet) (c : FilterContext) (v : Value) (i : Invocation) :
    r.step c.publicView v.publicView i = (r.step c v i).map Value.publicView := by
  unfold step
  cases hget : r.get? i.name with
  | none => rfl
  | some f =>
    simp only [h i.name f hget c v i.args]
    cases f.apply c v i.args <;> rfl

/-- A chain makes the view of its value of a view, with the same faults. -/
theorem applyChain_publicView (h : r.IsDiscreet) (c : FilterContext) (v : Value)
    (is : List Invocation) :
    r.applyChain c.publicView v.publicView is =
      ((r.applyChain c v is).1.publicView, (r.applyChain c v is).2) := by
  induction is generalizing v with
  | nil => rfl
  | cons i is ih =>
    rw [applyChain, applyChain, step_publicView h]
    cases r.step c v i with
    | ok w => exact ih w
    | error fault =>
      dsimp only [Except.map]
      rw [ih v]

end Registry
end RecordTemplate
