/-
  RecordTemplate.Proofs.Pass.Clock

  The clock of the day reaches a pass only through its filters.  Of the built-in filters only
  those for dates read it, so without them a template renders alike on every day.
-/

import RecordTemplate.Proofs.Filter.Context
import RecordTemplate.Render.Renderer

namespace RecordTemplate

open RecordTemplate.Calendar RecordTemplate.Render RecordTemplate.Template

/-! ## Filters -/

/-- A filter for which the current moment does not matter. -/
def Filter.IgnoresClock (f : Filter) : Prop :=
  ∀ (c : FilterContext) (day : DateTime), f.apply { c with now := day } = f.apply c

/-- Of the built-in filters only those for dates read the current moment. -/
theorem Filter.ignoresClock_of_mem :
    ∀ f ∈ textFilters ++ numberFilters ++ listFilters, f.IgnoresClock := by
  simp only [textFilters, numberFilters, listFilters, List.cons_append, List.nil_append,
    List.forall_mem_cons]
  repeat' apply And.intro
  all_goals first | exact fun _ _ => rfl | simp

namespace Registry

/-- No filter of the registry reads the current moment. -/
def IgnoresClock (r : Registry) : Prop := ∀ name f, r.get? name = some f → f.IgnoresClock

theorem ignoresClock_ofFilters {fs : List Filter} (h : ∀ f ∈ fs, f.IgnoresClock) :
    (ofFilters fs).IgnoresClock := by
  intro name f hget
  have hmem : (name, f) ∈ (fs.flatMap Filter.entries).reverse := mem_of_lookup hget
  obtain ⟨g, hg, hentry⟩ := List.mem_flatMap.1 (List.mem_reverse.1 hmem)
  obtain ⟨_, -, heq⟩ := List.mem_map.1 hentry
  cases heq
  exact h _ hg

end Registry

/-! ## Passes -/

namespace Render.Pass

variable {p : Pass}

theorem applyFilters_now (h : p.filters.IgnoresClock) (day : DateTime) :
    ({ p with now := day } : Pass).applyFilters = p.applyFilters := by
  funext tag v
  have hchain (terms : Entries) :
      p.filters.applyChain (({ p with now := day } : Pass).filterContext tag terms) v tag.filters =
        p.filters.applyChain (p.filterContext tag terms) v tag.filters :=
    Registry.applyChain_congr
      (fun i _ f hget => h i.name f hget (p.filterContext tag terms) day) v
  simp only [applyFilters, hchain]

theorem render_now (h : p.filters.IgnoresClock) (day : DateTime) :
    ({ p with now := day } : Pass).render = p.render := by
  have htag : ({ p with now := day } : Pass).renderTag = p.renderTag := by
    funext tag
    unfold renderTag tagText showResolved
    rw [applyFilters_now h]
    rfl
  have hhandlers : ({ p with now := day } : Pass).handlers = p.handlers := by
    unfold handlers testBranch evaluate renderTags
    rw [htag]
  funext text
  unfold render
  rw [hhandlers]

end Render.Pass

/-- A renderer whose filters do not read the clock renders alike on every day. -/
theorem Renderer.render_now {r : Renderer} (h : r.filters.IgnoresClock) (day : DateTime) :
    ({ r with now := day } : Renderer).render = r.render := by
  have hpass (recordId : Value) (row : Option Row) :
      (({ r with now := day } : Renderer).pass recordId row).render =
        (r.pass recordId row).render :=
    Render.Pass.render_now (p := r.pass recordId row) h day
  funext template recordId row
  unfold render runPass
  rw [hpass]

end RecordTemplate
