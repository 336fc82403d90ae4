/-
  RecordTemplate.Proofs.Pass.Events

  Which events the parts of a pass append.  Rendering a tag appends events about this one tag,
  and a condition those of its tags and its own result; only the test of a branch is counted as
  such (`Pass.appends_evaluate`).
-/

import RecordTemplate.Proofs.Outcome
import RecordTemplate.Render.Pass

namespace RecordTemplate.Render

open RecordTemplate.Template

/-! ## Kinds of events -/

namespace Event

/-- Whether an event belongs to looking up the value of a tag. -/
def isLookup : Event → Bool
  | lookedUp _ _ _ _ | asked _ _ _ | inlining _ | inlined _ => true
  | _ => false

/-- Whether an event belongs to the rendering of one tag, before its text is known. -/
def isOfTag : Event → Bool
  | tagFound | tagResolved | tagUnresolved _ | sourceFailed _ _ | filterSkipped _
  | chainApplied _ | lookedUp _ _ _ _ | asked _ _ _ | inlining _ | inlined _ => true
  | _ => false

/-- The condition that an event says is tested for a branch. -/
def tested? : Event → Option (List Char)
  | branchTested c => some c
  | _ => none

/-- The result of a condition; a malformed one does not hold. -/
def conditionResult? : Event → Option Bool
  | malformedCondition _ => some false
  | conditionDecided _ holds => some holds
  | _ => none

/-- Whether the tag of a fallback came out empty. -/
def fallbackResult? : Event → Option Bool
  | fallbackTried isEmpty => some isEmpty
  | _ => none

/-- A tag with the text that it was rendered as. -/
def rendered? : Event → Option (Tag × List Char)
  | tagRendered tag text => some (tag, text)
  | _ => none

/-- Whether an event belongs to showing a vector image. -/
def isInlining : Event → Bool
  | inlining _ | inlined _ => true
  | _ => false

theorem isLookup_of_isInlining {e : Event} (h : e.isInlining = true) : e.isLookup = true := by
  cases e <;> first | rfl | cases h

/-- Showing an image calls no data source. -/
theorem call?_of_isInlining {e : Event} (h : e.isInlining = true) : e.call? = none := by
  cases e <;> first | rfl | cases h

theorem isOfTag_of_isLookup {e : Event} (h : e.isLookup = true) : e.isOfTag = true := by
  cases e <;> first | rfl | cases h

/-- Looking up a value is no problem worth a diagnostic. -/
theorem diagnostic?_of_isLookup {e : Event} (h : e.isLookup = true) : e.diagnostic? = none := by
  cases e <;> first | rfl | cases h

theorem tested?_of_isOfTag {e : Event} (h : e.isOfTag = true) : e.tested? = none := by
  cases e <;> first | rfl | cases h

theorem isOfStructure_of_isOfTag {e : Event} (h : e.isOfTag = true) : e.isOfStructure = false := by
  cases e <;> first | rfl | cases h

theorem conditionResult?_of_isOfTag {e : Event} (h : e.isOfTag = true) :
    e.conditionResult? = none := by
  cases e <;> first | rfl | cases h

theorem fallbackResult?_of_isOfTag {e : Event} (h : e.isOfTag = true) :
    e.fallbackResult? = none := by
  cases e <;> first | rfl | cases h

theorem rendered?_of_isOfTag {e : Event} (h : e.isOfTag = true) : e.rendered? = none := by
  cases e <;> first | rfl | cases h

theorem rendered?_of_isOfTemplate {e : Event} (h : e.isOfTemplate = true) :
    e.rendered? = none := by
  cases e <;> first | rfl | cases h

end Event

/-- Tags with the texts that they were rendered as, in this order. -/
abbrev Rendered := List (Tag × List Char)

/-- The tags that a pass has rendered, with their texts. -/
def renderedIn (es : List Event) : Rendered := es.filterMap Event.rendered?

theorem renderedIn_append (es es' : List Event) :
    renderedIn (es ++ es') = renderedIn es ++ renderedIn es' := List.filterMap_append

theorem renderedIn_of_isOfTag {es : List Event} (h : ∀ e ∈ es, e.isOfTag = true) :
    renderedIn es = [] :=
  List.filterMap_eq_nil_iff.2 fun e he => Event.rendered?_of_isOfTag (h e he)

theorem conditionalsEvaluated_add (s : Stats) (e : Event) :
    (s.add e).conditionalsEvaluated = s.conditionalsEvaluated + e.tested?.toList.length := by
  cases e with
  | fallbackTried isEmpty => cases isEmpty <;> rfl
  | _ => rfl

/-- The branches counted are the conditions tested. -/
theorem conditionalsEvaluated_ofEvents (es : List Event) :
    (Stats.ofEvents es).conditionalsEvaluated = (es.filterMap Event.tested?).length := by
  -- the counters go up from any start
  have from_any (s : Stats) : (es.foldl Stats.add s).conditionalsEvaluated =
      s.conditionalsEvaluated + (es.filterMap Event.tested?).length := by
    induction es generalizing s with
    | nil => rfl
    | cons e es ih =>
      rw [List.foldl_cons, ih, conditionalsEvaluated_add, List.filterMap_cons]
      cases e.tested? <;> simp [Nat.add_assoc, Nat.add_comm 1]
  simpa [Stats.ofEvents] using from_any {}

/-! ## Values -/

/-- An answer of a data source whose failures are those of the source. -/
def sourced {α : Type} (name : String) : Except Failure α → Except Failure α
  | .ok a => .ok a
  | .error (.source n message) => .error (.source n message)
  | .error e => .error (.source name e.message)

@[simp] theorem outcome_asSource {α : Type} (name : String) (x : Except Failure α)
    (s : PassState) : outcome (asSource name x) s = (sourced name x, s) := by
  rcases x with e | a
  · cases e <;> rfl
  · rfl

theorem detached_asSource {α : Type} (name : String) (x : Except Failure α) :
    Detached (asSource name x) :=
  .of_outcome fun s => outcome_asSource name x s

namespace Resolver

variable (r : Resolver)

theorem appends_asSource {α : Type} (E : Event → Prop) (name : String) (x : Except Failure α) :
    Appends E (asSource name x) :=
  .of_keepsEvents fun s => by rw [outcome_asSource]

theorem appends_fetch (source field : String) (record : RecordRef) :
    Appends (·.isLookup) (r.fetch source field record) := by
  refine Appends.sequential.bind (.of_keepsEvents fun _ => rfl) fun _ => ?_
  refine Appends.sequential.bind (.of_keepsEvents fun _ => rfl) fun s => ?_
  split
  · exact Appends.sequential.bind (.notice rfl) fun _ => Appends.sequential.pure _
  · refine Appends.sequential.bind (.notice rfl) fun _ => ?_
    dsimp only
    split
    · refine Appends.sequential.bind (Appends.sequential.pure _) fun v => ?_
      exact .of_keepsEvents fun _ => rfl
    · refine Appends.sequential.bind (.notice rfl) fun _ => ?_
      refine Appends.sequential.bind (appends_asSource _ _ _) fun v => ?_
      exact .of_keepsEvents fun _ => rfl

theorem appends_resolve (source field : String) (record : RecordRef) (row : Option Row) :
    Appends (·.isLookup) (r.resolve source field record row) := by
  unfold resolve
  split
  · split
    · exact .of_keepsEvents fun _ => rfl
    · exact Appends.sequential.pure _
  · exact r.appends_fetch _ _ _

theorem appends_metadata {E : Event → Prop} (source field : String) (recordId : Value) :
    Appends E (r.metadata source field recordId) := by
  unfold metadata
  split
  · exact Appends.sequential.pure _
  · exact Appends.sequential.bind (appends_asSource _ _ _) fun _ => Appends.sequential.pure _

theorem appends_inlineImage (record : Entries) :
    Appends (·.isInlining) (r.inlineImage record) := by
  unfold inlineImage
  split
  · exact Appends.sequential.pure _
  · refine Appends.sequential.bind (appends_asSource _ _ _) fun path => ?_
    split
    · exact Appends.sequential.pure _
    · exact Appends.sequential.pure _
    · refine Appends.sequential.bind (appends_asSource _ _ _) fun content => ?_
      split
      · exact Appends.sequential.pure _
      · exact Appends.sequential.bind (.notice rfl) fun _ => Appends.sequential.pure _

theorem appends_present (field : String) (v : Value) :
    Appends (·.isInlining) (r.present field v) := by
  unfold present
  split
  · split
    · exact Appends.sequential.bind (.notice rfl) fun _ => r.appends_inlineImage _
    · exact Appends.sequential.pure _
  · exact Appends.sequential.pure _
  · exact Appends.sequential.pure _

theorem appends_resolveTag (tag : Tag) (record : RecordRef) (row : Option Row) :
    Appends (·.isLookup) (r.resolveTag tag record row) := by
  unfold resolveTag
  split
  · exact Appends.sequential.bind (r.appends_metadata _ _ _) fun _ => Appends.sequential.pure _
  · refine Appends.sequential.bind (r.appends_resolve _ _ _ _) fun raw => ?_
    split
    · exact Appends.sequential.bind (.of_keepsEvents fun _ => rfl) fun _ =>
        Appends.sequential.pure _
    · split
      · refine Appends.sequential.bind ?_ fun _ => Appends.sequential.pure _
        exact (r.appends_present _ _).mono fun _ => Event.isLookup_of_isInlining
      · exact Appends.sequential.pure _

end Resolver

/-! ## Tags and conditions -/

namespace Pass

variable (p : Pass)

/-- What is noticed while a value that has been found is shown: whether it is null, and then the
    filters that were skipped and how many were applied. -/
def shownEvents (tag : Tag) (resolved : Resolved) (terms : Entries) : List Event :=
  (if resolved.raw.isNull then .tagUnresolved tag.text else .tagResolved) ::
    if tag.filters = [] then []
    else
      (p.filters.applyChain (p.filterContext tag terms) resolved.raw tag.filters).2.map
        .filterSkipped ++ [.chainApplied (p.filters.knownCount tag.filters)]

/-- The filters of a tag always come to a value, and what is noticed of them are the faults of the
    chain. -/
theorem outcome_applyFilters (tag : Tag) (v : Value) (s : PassState) :
    outcome (p.applyFilters tag v) s =
      (.ok (p.filters.applyChain (p.filterContext tag s.terms) v tag.filters).1,
        { s with events := s.events ++
          ((p.filters.applyChain (p.filterContext tag s.terms) v tag.filters).2.map
            .filterSkipped ++ [.chainApplied (p.filters.knownCount tag.filters)]) }) := by
  simp only [applyFilters, outcome_bind, outcome_get, outcome_forM_notice, outcome_notice,
    outcome_pure, List.append_assoc]

/-- A value that has been found is shown through the filters, which may find the terms kept so
    far. -/
theorem outcome_showResolved (tag : Tag) (resolved : Resolved) (s : PassState) :
    outcome (p.showResolved tag resolved) s =
      (.ok (p.filters.applyChain (p.filterContext tag s.terms) resolved.raw
        tag.filters).1.render.toList,
        { s with events := s.events ++ p.shownEvents tag resolved s.terms }) := by
  rw [showResolved, outcome_bind_ok _ (outcome_notice _ s), shownEvents]
  by_cases hnone : tag.filters = []
  · rw [if_pos hnone, if_pos hnone, hnone]
    rfl
  · rw [if_neg hnone, if_neg hnone, outcome_bind_pure, outcome_applyFilters]
    simp only [Except.map, List.append_assoc, List.cons_append, List.nil_append]

theorem isOfTag_of_mem_shownEvents {tag : Tag} {resolved : Resolved} {terms : Entries} {e : Event}
    (h : e ∈ p.shownEvents tag resolved terms) : e.isOfTag = true := by
  rcases List.mem_cons.1 h with rfl | h
  · split <;> rfl
  · split at h
    · cases h
    · rcases List.mem_append.1 h with h | h
      · obtain ⟨fault, -, rfl⟩ := List.mem_map.1 h
        rfl
      · rw [List.mem_singleton.1 h]
        rfl

theorem appends_showResolved (tag : Tag) (resolved : Resolved) :
    Appends (·.isOfTag) (p.showResolved tag resolved) := by
  intro s
  rw [outcome_showResolved]
  exact ⟨_, rfl, fun e he => p.isOfTag_of_mem_shownEvents he⟩

theorem appends_resolveOrFail (tag : Tag) : Appends (·.isLookup) (p.resolveOrFail tag) := by
  refine .tryCatch ?_ fun e => ?_
  · exact Appends.sequential.bind (p.resolver.appends_resolveTag _ _ _) fun _ =>
      Appends.sequential.pure _
  · split
    · exact Appends.sequential.pure _
    · exact .of_keepsEvents fun _ => rfl

/-- What happens until the text of a tag is known is about this tag. -/
theorem appends_tagText (tag : Tag) : Appends (·.isOfTag) (p.tagText tag) := by
  have hlookups := (p.appends_resolveOrFail tag).mono fun _ => Event.isOfTag_of_isLookup
  refine Appends.sequential.bind hlookups fun r => ?_
  split
  · exact p.appends_showResolved _ _
  · exact Appends.sequential.bind (.notice rfl) fun _ => Appends.sequential.pure _

/-- Rendering a tag is finding its text, between two events. -/
theorem outcome_renderTag (tag : Tag) (s : PassState) :
    outcome (p.renderTag tag) s =
      match outcome (p.tagText tag) { s with events := s.events ++ [.tagFound] } with
      | (.ok text, t) => (.ok text, { t with events := t.events ++ [.tagRendered tag text] })
      | (.error e, t) => (.error e, t) := by
  rw [renderTag, outcome_bind_ok _ (outcome_notice .tagFound s), outcome_bind]
  rcases outcome (p.tagText tag) { s with events := s.events ++ [.tagFound] } with ⟨e | text, t⟩ <;>
    rfl

/-- Looking up a tag stops the failures of data sources. -/
theorem outcome_resolveOrFail (tag : Tag) (s : PassState) :
    outcome (p.resolveOrFail tag) s =
      match outcome (p.resolver.resolveTag tag ⟨p.recordId, 0⟩ p.row) s with
      | (.ok resolved, t) => (.ok (.ok resolved), t)
      | (.error (.source n message), t) => (.ok (.error (Failure.source n message).message), t)
      | (.error e, t) => (.error e, t) := by
  rw [resolveOrFail, outcome_tryCatch, outcome_bind_pure]
  rcases outcome (p.resolver.resolveTag tag ⟨p.recordId, 0⟩ p.row) s with ⟨e | resolved, t⟩
  · cases e <;> rfl
  · rfl

/-- All that happens between the two events is about the tag. -/
theorem events_renderTag {tag : Tag} {s t : PassState} {text : List Char}
    (h : outcome (p.renderTag tag) s = (.ok text, t)) :
    ∃ es, t.events = s.events ++ (es ++ [.tagRendered tag text]) ∧
      ∀ e ∈ es, e.isOfTag = true := by
  rw [outcome_renderTag] at h
  obtain ⟨es, hes, hkind⟩ := p.appends_tagText tag { s with events := s.events ++ [.tagFound] }
  rcases htext : outcome (p.tagText tag) { s with events := s.events ++ [.tagFound] } with
    ⟨e | a, u⟩ <;> rw [htext] at h hes
  · cases h
  · cases h
    refine ⟨.tagFound :: es, ?_, fun e he => ?_⟩
    · rw [show u.events = s.events ++ [.tagFound] ++ es from hes]
      simp
    · exact (List.mem_cons.1 he).elim (fun he => he ▸ rfl) (hkind e)

/-- The text of a tag is noticed as it is returned. -/
theorem renderedIn_renderTag {tag : Tag} {s t : PassState} {text : List Char}
    (h : outcome (p.renderTag tag) s = (.ok text, t)) :
    renderedIn t.events = renderedIn s.events ++ [(tag, text)] := by
  obtain ⟨es, hes, hkind⟩ := p.events_renderTag h
  rw [hes, renderedIn_append, renderedIn_append, renderedIn_of_isOfTag hkind]
  rfl

/-- A tag that fails is not among those rendered. -/
theorem renderedIn_renderTag_error {tag : Tag} {s t : PassState} {e : Failure}
    (h : outcome (p.renderTag tag) s = (.error e, t)) :
    renderedIn t.events = renderedIn s.events := by
  rw [outcome_renderTag] at h
  obtain ⟨es, hes, hkind⟩ := p.appends_tagText tag { s with events := s.events ++ [.tagFound] }
  rcases htext : outcome (p.tagText tag) { s with events := s.events ++ [.tagFound] } with
    ⟨f | a, u⟩ <;> rw [htext] at h hes
  · cases h
    rw [show t.events = s.events ++ [.tagFound] ++ es from hes, renderedIn_append,
      renderedIn_of_isOfTag hkind, renderedIn_append, List.append_nil]
    exact List.append_nil _
  · cases h

theorem appends_renderTag (tag : Tag) :
    Appends (fun e => e.isOfTag ∨ e.rendered?.isSome) (p.renderTag tag) := by
  refine Appends.sequential.bind (.notice (.inl rfl)) fun _ => ?_
  refine Appends.sequential.bind ((p.appends_tagText tag).mono fun _ => .inl) fun text => ?_
  exact Appends.sequential.bind (.notice (.inr rfl)) fun _ => Appends.sequential.pure _

/-- A condition does not test branches of its own, and it meets no blocks or fallbacks. -/
theorem appends_evaluate (text : List Char) :
    Appends (fun e => e.tested? = none ∧ e.isOfStructure = false) (p.evaluate text) := by
  unfold evaluate Render.evaluate
  split
  · exact Appends.sequential.bind (.notice ⟨rfl, rfl⟩) fun _ => Appends.sequential.pure _
  · refine Appends.sequential.bind ?_ fun left =>
      Appends.sequential.bind (.notice ⟨rfl, rfl⟩) fun _ => Appends.sequential.pure _
    refine Appends.sequential.substituteTags (fun tag => ?_) _
    refine (p.appends_renderTag tag).mono fun e he => ?_
    -- what is noticed is about the tag, or it is the text of the tag
    rcases he with he | he
    · exact ⟨Event.tested?_of_isOfTag he, Event.isOfStructure_of_isOfTag he⟩
    · cases e <;> first | exact ⟨rfl, rfl⟩ | cases he

theorem appends_testBranch (c : List Char) :
    Appends (fun e => e.isOfStructure = false) (p.testBranch c) :=
  Appends.sequential.bind (.notice rfl) fun _ => (p.appends_evaluate c).mono fun _ he => he.2

/-! ## A plain pass -/

/-- A pass over data sources at the start of 2024, with nothing else set up. -/
def ofSources (sources : List (String × DataSource)) (filters : Registry) : Pass where
  keywords := ⟨sources.map fun s => s.1.toList⟩
  resolver := ⟨sources, none, "row"⟩
  filters := filters
  locale := "en_US"
  limit := 10
  now := ⟨⟨2024, 1, 1, by decide⟩, .midnight, none⟩
  recordId := .int 1
  row := none

end Pass

/-- A data source in which every field has this value. -/
def sourceOf (name : String) (v : Value) : String × DataSource :=
  (name, ⟨name, fun _ _ => .ok v, fun _ _ => .ok none, fun _ => .ok []⟩)

end RecordTemplate.Render
