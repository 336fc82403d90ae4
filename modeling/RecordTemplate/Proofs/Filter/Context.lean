/-
  RecordTemplate.Proofs.Filter.Context

  What the built-in filters read of their context.  All of them may read the locale and the
  current moment, but only the filter for term links reads the terms behind a tag.
-/

import RecordTemplate.Filter.Registry

namespace RecordTemplate

open RecordTemplate.Template

/-! ## Filters -/

namespace Filter

/-- A filter for which the terms behind the tag do not matter. -/
def IgnoresTerms (f : Filter) : Prop :=
  ∀ c c' : FilterContext, c.locale = c'.locale → c.now = c'.now → f.apply c = f.apply c'

theorem ignoresTerms_of_mem_textFilters : ∀ f ∈ textFilters, f.IgnoresTerms := by
  simp only [textFilters, List.forall_mem_cons]
  repeat' apply And.intro
  all_goals first | exact fun _ _ _ _ => rfl | simp

theorem ignoresTerms_of_mem_numberFilters : ∀ f ∈ numberFilters, f.IgnoresTerms := by
  have hpercent : percent.IgnoresTerms := by
    intro c c' hlocale _
    funext v args
    simp only [percent, hlocale]
  simp only [numberFilters, List.forall_mem_cons]
  exact ⟨fun _ _ _ _ => rfl, fun _ _ _ _ => rfl, fun _ _ _ _ => rfl, hpercent,
    fun _ _ _ _ => rfl, by simp⟩

theorem ignoresTerms_of_mem_dateFilters : ∀ f ∈ dateFilters, f.IgnoresTerms := by
  have hformat : dateFormat.IgnoresTerms := by
    intro c c' hlocale hnow
    funext v args
    simp only [dateFormat, onMoment, hlocale, hnow]
  have hrelative : relativeDate.IgnoresTerms := by
    intro c c' hlocale hnow
    funext v args
    simp only [relativeDate, onMoment, hlocale, hnow]
  simp only [dateFilters, List.forall_mem_cons]
  exact ⟨hformat, hrelative, by simp⟩

theorem ignoresTerms_of_mem_listFilters :
    ∀ f ∈ listFilters, f = termLinks ∨ f.IgnoresTerms := by
  simp only [listFilters, List.forall_mem_cons]
  repeat' apply And.intro
  all_goals first | exact .inl rfl | exact .inr fun _ _ _ _ => rfl | simp

/-- Of the built-in filters only the one for term links reads terms. -/
theorem eq_termLinks_or_ignoresTerms {f : Filter} (h : f ∈ builtinFilters) :
    f = termLinks ∨ f.IgnoresTerms := by
  simp only [builtinFilters, List.mem_append] at h
  obtain ((h | h) | h) | h := h
  · exact .inr (ignoresTerms_of_mem_textFilters f h)
  · exact .inr (ignoresTerms_of_mem_numberFilters f h)
  · exact .inr (ignoresTerms_of_mem_dateFilters f h)
  · exact ignoresTerms_of_mem_listFilters f h

variable {f : Filter} {c c' : FilterContext}

/-- A built-in filter reads the locale, the moment and the terms behind the tag. -/
theorem apply_congr (h : f ∈ builtinFilters) (hlocale : c.locale = c'.locale)
    (hnow : c.now = c'.now) (hterms : c.currentTerms = c'.currentTerms) :
    f.apply c = f.apply c' := by
  obtain rfl | hf := eq_termLinks_or_ignoresTerms h
  · funext v args
    simp only [termLinks, hterms]
  · exact hf c c' hlocale hnow

end Filter

/-! ## Chains -/

theorem mem_of_lookup {α : Type} {l : List (String × α)} {name : String} {a : α}
    (h : l.lookup name = some a) : (name, a) ∈ l := by
  obtain ⟨before, after, rfl, -⟩ := List.lookup_eq_some_iff.1 h
  simp

namespace Registry

/-- All filters of the registry are built-in ones, under whatever names. -/
def IsBuiltin (r : Registry) : Prop := ∀ name f, r.get? name = some f → f ∈ builtinFilters

theorem isBuiltin_builtin : builtin.IsBuiltin := by
  intro name f h
  have hmem : (name, f) ∈ (builtinFilters.flatMap Filter.entries).reverse := mem_of_lookup h
  obtain ⟨g, hg, hentry⟩ := List.mem_flatMap.1 (List.mem_reverse.1 hmem)
  obtain ⟨_, -, heq⟩ := List.mem_map.1 hentry
  cases heq
  exact hg

variable {r : Registry} {c c' : FilterContext} {is : List Invocation}

/-- Whether a chain names the filter for term links. -/
def ReadsTerms (r : Registry) (is : List Invocation) : Prop :=
  ∃ i ∈ is, r.get? i.name = some Filter.termLinks

/-- A chain does the same in two contexts if each of its filters does. -/
theorem applyChain_congr (h : ∀ i ∈ is, ∀ f, r.get? i.name = some f → f.apply c = f.apply c')
    (v : Value) : r.applyChain c v is = r.applyChain c' v is := by
  induction is generalizing v with
  | nil => rfl
  | cons i is ih =>
    have htail := ih fun j hj => h j (List.mem_cons_of_mem _ hj)
    -- the filter is skipped in both contexts or computes the same in both
    have hstep : r.step c v i = r.step c' v i := by
      unfold step
      cases hget : r.get? i.name with
      | none => rfl
      | some f => simp only [h i (List.mem_cons_self ..) f hget]
    unfold applyChain
    rw [hstep]
    cases r.step c' v i with
    | ok w => exact htail w
    | error fault => simp only [htail v]

variable (hbuiltin : r.IsBuiltin) (hlocale : c.locale = c'.locale) (hnow : c.now = c'.now)
include hbuiltin hlocale hnow

/-- A chain of built-in filters reads no more of the terms than those behind the tag. -/
theorem applyChain_of_currentTerms (hterms : c.currentTerms = c'.currentTerms) (v : Value) :
    r.applyChain c v is = r.applyChain c' v is :=
  applyChain_congr (fun _ _ f hget => Filter.apply_congr (hbuiltin _ f hget) hlocale hnow hterms) v

/-- Without the filter for term links it does not read them either. -/
theorem applyChain_of_not_readsTerms (h : ¬ r.ReadsTerms is) (v : Value) :
    r.applyChain c v is = r.applyChain c' v is := by
  refine applyChain_congr (fun i hi f hget => ?_) v
  obtain rfl | hf := Filter.eq_termLinks_or_ignoresTerms (hbuiltin _ f hget)
  · exact absurd ⟨i, hi, hget⟩ h
  · exact hf c c' hlocale hnow

end Registry
end RecordTemplate
