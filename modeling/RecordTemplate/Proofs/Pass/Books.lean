/-
  RecordTemplate.Proofs.Pass.Books

  The books of a pass: its counters, its diagnostics by their codes, and its tags with the ways
  their lookups ended, all read off the same events.  Each of them adds up over a sequence of
  events, so books that balance over two parts of a pass balance over both (`Balanced.append`).
-/

import RecordTemplate.Proofs.Pass.Events

namespace RecordTemplate

/-- Whether a filter was skipped because it is unknown, and not because it failed. -/
def ChainFault.isUnknown : ChainFault → Bool
  | unknown _ => true
  | failed _ _ => false

@[simp] theorem ChainFault.isUnknown_unknown (name : String) : (unknown name).isUnknown = true := rfl

@[simp] theorem ChainFault.isUnknown_failed (name message : String) :
    (failed name message).isUnknown = false := rfl

/-- The code of the diagnostic of a skipped filter. -/
theorem ChainFault.code_diagnostic (fault : ChainFault) :
    fault.diagnostic.code = if fault.isUnknown then "unknown_filter" else "filter_failed" := by
  cases fault <;> rfl

end RecordTemplate

namespace RecordTemplate.Render

open RecordTemplate.Template

/-! ## Counters -/

namespace Stats

instance : Add Stats where
  add s t :=
    { tagsFound := s.tagsFound + t.tagsFound
      tagsResolved := s.tagsResolved + t.tagsResolved
      conditionalsEvaluated := s.conditionalsEvaluated + t.conditionalsEvaluated
      fallbacksUsed := s.fallbacksUsed + t.fallbacksUsed
      filtersApplied := s.filtersApplied + t.filtersApplied }

section Fields

variable (s t : Stats)

@[simp] theorem tagsFound_add : (s + t).tagsFound = s.tagsFound + t.tagsFound := rfl

@[simp] theorem tagsResolved_add : (s + t).tagsResolved = s.tagsResolved + t.tagsResolved := rfl

@[simp] theorem conditionalsEvaluated_add :
    (s + t).conditionalsEvaluated = s.conditionalsEvaluated + t.conditionalsEvaluated := rfl

@[simp] theorem filtersApplied_add :
    (s + t).filtersApplied = s.filtersApplied + t.filtersApplied := rfl

end Fields

theorem add_assoc (s t u : Stats) : s + t + u = s + (t + u) := by
  show Stats.mk _ _ _ _ _ = Stats.mk _ _ _ _ _
  rw [Stats.mk.injEq]
  refine ⟨?_, ?_, ?_, ?_, ?_⟩ <;> exact Nat.add_assoc _ _ _

theorem empty_add (s : Stats) : {} + s = s := by
  show Stats.mk _ _ _ _ _ = s
  simp only [Nat.zero_add]

/-- What an event adds does not depend on the counters so far. -/
theorem add_event (s : Stats) (e : Event) : s.add e = s + ({} : Stats).add e := by
  cases e with
  | chainApplied known =>
    exact congrArg (fun n => { s with filtersApplied := s.filtersApplied + n })
      (Nat.zero_add known).symm
  | fallbackTried isEmpty => cases isEmpty <;> rfl
  | _ => rfl

@[simp] theorem ofEvents_nil : ofEvents [] = {} := rfl

theorem foldl_add (s : Stats) (es : List Event) : es.foldl Stats.add s = s + ofEvents es := by
  induction es generalizing s with
  | nil => rfl
  | cons e es ih =>
    have hfirst : ofEvents (e :: es) = ({} : Stats).add e + ofEvents es := ih _
    rw [hfirst, List.foldl_cons, ih, add_event s e, add_assoc]

@[simp] theorem ofEvents_cons (e : Event) (es : List Event) :
    ofEvents (e :: es) = ({} : Stats).add e + ofEvents es := foldl_add _ es

@[simp] theorem ofEvents_append (es es' : List Event) :
    ofEvents (es ++ es') = ofEvents es + ofEvents es' := by
  rw [ofEvents, List.foldl_append, foldl_add]
  rfl

/-- Events that count for nothing leave the counters alone. -/
theorem ofEvents_eq_empty {es : List Event} (h : ∀ e ∈ es, ({} : Stats).add e = {}) :
    ofEvents es = {} := by
  induction es with
  | nil => rfl
  | cons e es ih =>
    have hrest : ofEvents es = {} := ih fun e' he' => h e' (List.mem_cons_of_mem _ he')
    rw [ofEvents_cons, h e List.mem_cons_self, hrest]
    rfl

end Stats

/-! ## Diagnostics by their codes -/

/-- How many diagnostics of a code there are among events. -/
def diagnosed (code : String) (es : List Event) : Nat :=
  (es.filterMap Event.diagnostic?).countP fun d => d.code == code

section Diagnosed

variable (code : String)

@[simp] theorem diagnosed_nil : diagnosed code [] = 0 := rfl

@[simp] theorem diagnosed_append (es es' : List Event) :
    diagnosed code (es ++ es') = diagnosed code es + diagnosed code es' := by
  rw [diagnosed, List.filterMap_append, List.countP_append]
  rfl

theorem diagnosed_cons (e : Event) (es : List Event) :
    diagnosed code (e :: es) = diagnosed code [e] + diagnosed code es :=
  diagnosed_append code [e] es

theorem diagnosed_eq_zero {code : String} {es : List Event}
    (h : ∀ e ∈ es, ∀ d, e.diagnostic? = some d → d.code ≠ code) : diagnosed code es = 0 := by
  rw [diagnosed, List.countP_eq_zero]
  intro d hd
  obtain ⟨e, he, hde⟩ := List.mem_filterMap.1 hd
  simpa using h e he d hde

end Diagnosed

/-- No condition is malformed within a tag. -/
theorem Event.code_ne_of_isOfTag {e : Event} {d : Diagnostic} (h : e.isOfTag = true)
    (hd : e.diagnostic? = some d) : d.code ≠ "malformed_condition" := by
  cases e <;> cases h <;> cases hd
  case filterSkipped fault => cases fault <;> simp [ChainFault.code_diagnostic]
  all_goals simp

/-- The diagnostics about a template are those of its conditions and its blocks. -/
theorem Event.code_mem_of_isOfTemplate {e : Event} {d : Diagnostic} (h : e.isOfTemplate = true)
    (hd : e.diagnostic? = some d) :
    d.code ∈ ["malformed_condition", "iteration_limit", "unbalanced_block"] := by
  cases e <;> cases h <;> cases hd <;> simp

/-! ## Tags with their endings -/

/-- How the lookup of a tag ended. -/
inductive Ending where
  | resolved
  | unresolved
  | failed
  deriving DecidableEq, Repr

/-- The ending that an event tells. -/
def Event.ending? : Event → Option Ending
  | tagResolved => some .resolved
  | tagUnresolved _ => some .unresolved
  | sourceFailed _ _ => some .failed
  | _ => none

/-- The tags that have been rendered, each with the endings told for it, and the endings told
    since the last of them. -/
structure TagLog where
  tags : List (Tag × List Ending) := []
  pending : List Ending := []

namespace TagLog

/-- The log after one more event.  A tag that has been rendered takes the endings told before. -/
def add (l : TagLog) (e : Event) : TagLog :=
  match e.rendered? with
  | some (tag, _) => ⟨l.tags ++ [(tag, l.pending)], []⟩
  | none => { l with pending := l.pending ++ e.ending?.toList }

def ofEvents (es : List Event) : TagLog := es.foldl add {}

/-- The filters of the tags whose lookup did not fail. -/
def invocations (l : TagLog) : List Invocation :=
  (l.tags.filter fun t => Ending.failed ∉ t.2).flatMap fun t => t.1.filters

theorem foldl_add (tags tags' : List (Tag × List Ending)) (pending : List Ending)
    (es : List Event) :
    es.foldl add ⟨tags ++ tags', pending⟩ =
      ⟨tags ++ (es.foldl add ⟨tags', pending⟩).tags, (es.foldl add ⟨tags', pending⟩).pending⟩ := by
  induction es generalizing tags' pending with
  | nil => rfl
  | cons e es ih =>
    rw [List.foldl_cons, List.foldl_cons]
    unfold add
    cases e.rendered? with
    | none => exact ih tags' _
    | some r =>
      dsimp only
      rw [List.append_assoc]
      exact ih _ []

/-- A log in which nothing is pending goes on as a new one. -/
theorem ofEvents_append {es : List Event} (h : (ofEvents es).pending = []) (es' : List Event) :
    ofEvents (es ++ es') =
      ⟨(ofEvents es).tags ++ (ofEvents es').tags, (ofEvents es').pending⟩ := by
  rcases hlog : ofEvents es with ⟨tags, pending⟩
  rw [hlog] at h
  have hlater := foldl_add tags [] [] es'
  rw [List.append_nil] at hlater
  rw [ofEvents, List.foldl_append]
  change es'.foldl add (ofEvents es) = _
  rw [hlog, show pending = [] from h]
  exact hlater

/-- Until a tag has been rendered all endings are pending. -/
theorem ofEvents_of_not_rendered {es : List Event} (h : ∀ e ∈ es, e.rendered? = none) :
    ofEvents es = ⟨[], es.filterMap Event.ending?⟩ := by
  have from_any (pending : List Ending) :
      es.foldl add ⟨[], pending⟩ = ⟨[], pending ++ es.filterMap Event.ending?⟩ := by
    induction es generalizing pending with
    | nil => rw [List.filterMap_nil, List.append_nil]; rfl
    | cons e es ih =>
      have hfirst : add ⟨[], pending⟩ e = ⟨[], pending ++ e.ending?.toList⟩ := by
        rw [add, h e List.mem_cons_self]
      rw [List.foldl_cons, hfirst, ih fun e' he' => h e' (List.mem_cons_of_mem _ he'),
        List.append_assoc, List.filterMap_cons]
      cases e.ending? <;> rfl
  exact from_any []

/-- A tag that has been rendered takes the endings told before it. -/
theorem ofEvents_concat {es : List Event} (h : ∀ e ∈ es, e.rendered? = none) (tag : Tag)
    (text : List Char) :
    ofEvents (es ++ [.tagRendered tag text]) = ⟨[(tag, es.filterMap Event.ending?)], []⟩ := by
  have hbefore := ofEvents_of_not_rendered h
  rw [ofEvents, List.foldl_append]
  change [Event.tagRendered tag text].foldl add (ofEvents es) = _
  rw [hbefore]
  rfl

theorem invocations_append (tags tags' : List (Tag × List Ending)) (pending pending' : List Ending) :
    invocations ⟨tags ++ tags', pending⟩ =
      invocations ⟨tags, pending'⟩ ++ invocations ⟨tags', pending⟩ := by
  simp only [invocations, List.filter_append, List.flatMap_append]

end TagLog

/-! ## Books that balance -/

/-- The books of a pass balance. -/
structure Balanced (es : List Event) : Prop where
  /-- No ending is told without its tag. -/
  closed : (TagLog.ofEvents es).pending = []
  /-- Every tag has ended in one way. -/
  endings : ∀ t ∈ (TagLog.ofEvents es).tags, ∃ ending, t.2 = [ending]
  /-- The tags counted are those rendered. -/
  found : (Stats.ofEvents es).tagsFound = (TagLog.ofEvents es).tags.length
  /-- A tag that is found is resolved, is unresolved or fails. -/
  tags : (Stats.ofEvents es).tagsFound =
    (Stats.ofEvents es).tagsResolved + diagnosed "unresolved_field" es +
      diagnosed "source_error" es
  /-- A filter of a tag that does not fail is applied or unknown. -/
  filters : (Stats.ofEvents es).filtersApplied + diagnosed "unknown_filter" es =
    (TagLog.ofEvents es).invocations.length
  /-- Only a filter that is applied fails. -/
  failures : diagnosed "filter_failed" es ≤ (Stats.ofEvents es).filtersApplied
  /-- Only a condition that is tested is malformed. -/
  conditions : diagnosed "malformed_condition" es ≤ (Stats.ofEvents es).conditionalsEvaluated

namespace Balanced

theorem nil : Balanced [] where
  closed := rfl
  endings _ ht := absurd ht List.not_mem_nil
  found := rfl
  tags := rfl
  filters := rfl
  failures := Nat.le_refl 0
  conditions := Nat.le_refl 0

theorem append {es es' : List Event} (h : Balanced es) (h' : Balanced es') :
    Balanced (es ++ es') := by
  have hlog := TagLog.ofEvents_append h.closed es'
  constructor
  · rw [hlog]
    exact h'.closed
  · intro t ht
    rw [hlog] at ht
    exact (List.mem_append.1 ht).elim (h.endings t) (h'.endings t)
  · rw [hlog, Stats.ofEvents_append, Stats.tagsFound_add, h.found, h'.found, List.length_append]
  · have := h.tags
    have := h'.tags
    simp only [Stats.ofEvents_append, Stats.tagsFound_add, Stats.tagsResolved_add,
      diagnosed_append]
    omega
  · have hsum : (TagLog.ofEvents (es ++ es')).invocations =
        (TagLog.ofEvents es).invocations ++ (TagLog.ofEvents es').invocations := by
      rw [hlog]
      exact TagLog.invocations_append _ _ _ _
    have := h.filters
    have := h'.filters
    rw [hsum]
    simp only [Stats.ofEvents_append, Stats.filtersApplied_add, diagnosed_append,
      List.length_append]
    omega
  · have := h.failures
    have := h'.failures
    simp only [Stats.ofEvents_append, Stats.filtersApplied_add, diagnosed_append]
    omega
  · have := h.conditions
    have := h'.conditions
    simp only [Stats.ofEvents_append, Stats.conditionalsEvaluated_add, diagnosed_append]
    omega

end Balanced

end RecordTemplate.Render
