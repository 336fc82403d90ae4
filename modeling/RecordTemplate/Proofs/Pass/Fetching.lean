/-
  RecordTemplate.Proofs.Pass.Fetching

  What looking up values does to the values fetched and to the data sources.  Whatever a resolver
  is asked for, it looks up at most one value that was not fetched before; then the data source
  is called, if there is one, and its answer is kept (`Resolver.Extends`).  Values fetched before
  do not change an answer if they are what the data source would answer again.
-/

import RecordTemplate.Proofs.Pass.Lookup

namespace RecordTemplate.Render

open RecordTemplate.Template

/-! ## Calls to data sources -/

/-- A call to a data source for a value: source, field and record. -/
abbrev SourceCall := String × Value × Value

/-- The calls to data sources among events. -/
def callsIn (es : List Event) : List SourceCall := es.filterMap Event.call?

theorem callsIn_append (es es' : List Event) : callsIn (es ++ es') = callsIn es ++ callsIn es' :=
  List.filterMap_append

theorem callsIn_of_isInlining {es : List Event} (h : ∀ e ∈ es, e.isInlining = true) :
    callsIn es = [] :=
  List.filterMap_eq_nil_iff.2 fun e he => Event.call?_of_isInlining (h e he)

/-! ## Steps that look up nothing -/

/-- Between two states no value has been fetched and no data source called. -/
structure SameLookups (s t : PassState) : Prop where
  cache : t.cache = s.cache
  calls : callsIn t.events = callsIn s.events

theorem SameLookups.refl (s : PassState) : SameLookups s s := ⟨rfl, rfl⟩

/-- A detached step that does no more than show an image looks up nothing. -/
theorem Detached.sameLookups {α : Type} {x : PassM α} (h : Detached x)
    (hevents : Appends (·.isInlining) x) (s : PassState) : SameLookups s (outcome x s).2 := by
  obtain ⟨es, hes, hkind⟩ := hevents s
  refine ⟨h.cache s, ?_⟩
  rw [hes, callsIn_append, callsIn_of_isInlining hkind, List.append_nil]

namespace Resolver

variable {r : Resolver} {source field : String} {record : RecordRef} {row : Option Row}
  {tag : Tag} {s t : PassState}

/-- The label of a field is not a value that is fetched. -/
theorem sameLookups_of_asksLabel (h : r.AsksLabel tag) (s : PassState) :
    SameLookups s (outcome (r.resolveTag tag record row) s).2 := by
  refine (detached_resolveTag h).sameLookups ?_ s
  unfold AsksLabel at h
  rw [resolveTag, if_pos h]
  exact Appends.sequential.bind (r.appends_metadata _ _ _) fun _ => Appends.sequential.pure _

/-- Nothing more is looked up for a tag than the value of its field. -/
theorem sameLookups_resolveTag (h : ¬ r.AsksLabel tag) (record : RecordRef) (row : Option Row)
    (s : PassState) :
    SameLookups (outcome (r.resolve tag.source tag.field record row) s).2
      (outcome (r.resolveTag tag record row) s).2 := by
  unfold AsksLabel at h
  rw [resolveTag, if_neg h, outcome_bind]
  rcases outcome (r.resolve tag.source tag.field record row) s with ⟨e | raw, t⟩
  · exact .refl t
  · show SameLookups t (outcome (ite _ _ _) t).2
    split
    · exact ⟨rfl, rfl⟩
    · split
      · rw [outcome_bind_pure]
        exact (r.detached_present _ _).sameLookups (r.appends_present _ _) t
      · exact .refl t

/-! ## Values that were not fetched before -/

/-- The calls for a value that was not fetched before; none without a data source. -/
def asks (r : Resolver) (source field : String) (id : Value) : List SourceCall :=
  if (r.sources.lookup source).isSome then [(source, .text field, id)] else []

/-- What is kept of a value that was not fetched before; nothing if the data source fails. -/
def gains (r : Resolver) (source field : String) (record : RecordRef) : List CacheEntry :=
  match r.sourceValue source field record.id with
  | .ok v => [⟨source, record, field, v⟩]
  | .error _ => []

theorem mem_asks {id : Value} {c : SourceCall} : c ∈ r.asks source field id ↔
    (r.sources.lookup source).isSome = true ∧ c = (source, .text field, id) := by
  unfold asks
  split
  · next h => simp [h]
  · next h => simp [h]

theorem mem_gains {e : CacheEntry} : e ∈ r.gains source field record ↔
    ∃ v, r.sourceValue source field record.id = .ok v ∧ e = ⟨source, record, field, v⟩ := by
  unfold gains
  cases r.sourceValue source field record.id <;> simp

theorem callsIn_missEvents (r : Resolver) (source field : String) (id : Value) :
    callsIn (r.missEvents source field id) = r.asks source field id := by
  unfold missEvents asks
  split <;> rfl

/-- What happens to the values fetched and to the data sources when something is looked up for a
    record: nothing, or one value was not fetched before. -/
inductive Extends (r : Resolver) (record : RecordRef) (s t : PassState) : Prop where
  | same (lookups : SameLookups s t)
  | missed {source field : String} (notFetched : cached? s source record field = none)
      (cache : t.cache = s.cache ++ r.gains source field record)
      (calls : callsIn t.events = callsIn s.events ++ r.asks source field record.id)

theorem Extends.trans_same {u : PassState} (h : r.Extends record s t) (hsame : SameLookups t u) :
    r.Extends record s u := by
  cases h with
  | same lookups =>
    exact .same ⟨hsame.cache.trans lookups.cache, hsame.calls.trans lookups.calls⟩
  | missed notFetched cache calls =>
    exact .missed notFetched (hsame.cache.trans cache) (hsame.calls.trans calls)

theorem extends_fetch (r : Resolver) (source field : String) (record : RecordRef)
    (s : PassState) : r.Extends record s (outcome (r.fetch source field record) s).2 := by
  rcases hkey : record.id.keyFault? with _ | fault
  · rcases hc : cached? s source record field with _ | v
    · rw [outcome_fetch_of_not_cached hkey hc]
      have hcalls : callsIn (s.events ++ r.missEvents source field record.id) =
          callsIn s.events ++ r.asks source field record.id := by
        rw [callsIn_append, callsIn_missEvents]
      refine .missed hc ?_ ?_
      · unfold gains
        cases r.sourceValue source field record.id
        · exact (List.append_nil _).symm
        · rfl
      · cases r.sourceValue source field record.id <;> exact hcalls
    · rw [outcome_fetch_of_cached hkey hc]
      refine .same ⟨rfl, ?_⟩
      show callsIn (s.events ++ [_]) = _
      rw [callsIn_append]
      exact List.append_nil _
  · rw [outcome_fetch_of_keyFault hkey]
    exact .same (.refl s)

/-- With the row keyword the row answers, and the state stays. -/
theorem outcome_resolve_row (hs : source = r.rowKeyword) (s : PassState) :
    outcome (r.resolve source field record row) s =
      (row.elim (.ok .null) fun row => rowValue row field, s) := by
  unfold resolve
  rw [if_pos hs]
  cases row <;> rfl

theorem resolve_of_ne (hs : source ≠ r.rowKeyword) :
    r.resolve source field record row = r.fetch source field record := by
  unfold resolve
  exact if_neg hs

theorem extends_resolve (r : Resolver) (source field : String) (record : RecordRef)
    (row : Option Row) (s : PassState) :
    r.Extends record s (outcome (r.resolve source field record row) s).2 := by
  by_cases hs : source = r.rowKeyword
  · rw [outcome_resolve_row hs]
    exact .same (.refl s)
  · rw [resolve_of_ne hs]
    exact r.extends_fetch source field record s

theorem extends_resolveTag (r : Resolver) (tag : Tag) (record : RecordRef) (row : Option Row)
    (s : PassState) : r.Extends record s (outcome (r.resolveTag tag record row) s).2 := by
  by_cases hl : r.AsksLabel tag
  · exact .same (sameLookups_of_asksLabel hl s)
  · exact (r.extends_resolve tag.source tag.field record row s).trans_same
      (sameLookups_resolveTag hl record row s)

/-! ## Lookups that fail -/

/-- A value that could not be looked up is not kept, and neither is anything else. -/
theorem cache_resolve_of_fails (h : Fails (outcome (r.resolve source field record row) s).1) :
    (outcome (r.resolve source field record row) s).2.cache = s.cache := by
  by_cases hs : source = r.rowKeyword
  · rw [outcome_resolve_row hs]
  · rw [resolve_of_ne hs] at h ⊢
    obtain ⟨e, he⟩ := h
    exact (fetch_of_error (Prod.ext he rfl)).1

/-- The value of the field of a tag is an image for which the store of attachments fails. -/
def ImageRaises (r : Resolver) (s : PassState) (tag : Tag) (record : RecordRef)
    (row : Option Row) : Prop :=
  ∃ v es store, r.answer s tag.source tag.field record row = .ok v ∧ v.unwrapped = .mapping es ∧
    v.unwrapped.isVectorImage = true ∧ r.attachments = some store ∧ StoreRaises store es

/-- A tag that cannot be resolved leaves the values fetched as they were, unless its value has
    been found and cannot be shown. -/
theorem cache_resolveTag_of_fails (h : Fails (outcome (r.resolveTag tag record row) s).1) :
    (outcome (r.resolveTag tag record row) s).2.cache = s.cache ∨
      r.ImageRaises s tag record row ∧
        (outcome (r.resolveTag tag record row) s).2.cache =
          (outcome (r.resolve tag.source tag.field record row) s).2.cache := by
  by_cases hl : r.AsksLabel tag
  · exact .inl (sameLookups_of_asksLabel hl s).cache
  · have hcache := (sameLookups_resolveTag hl record row s).cache
    rw [(outcome_resolveTag hl s).1, fails_bind] at h
    rcases h with h | ⟨v, hv, h⟩
    · rw [← (r.outcome_resolve _ _ _ _ s).1] at h
      exact .inl (hcache.trans (cache_resolve_of_fails h))
    · obtain ⟨-, es, store, himage⟩ := fails_shown.1 h
      exact .inr ⟨⟨v, es, store, hv, himage⟩, hcache⟩

/-! ## Lookups with the row keyword -/

/-- With the row keyword a tag leaves the values fetched and the data sources alone. -/
theorem sameLookups_resolveTag_row (hs : tag.source = r.rowKeyword) (s : PassState) :
    SameLookups s (outcome (r.resolveTag tag record row) s).2 := by
  have hl : ¬ r.AsksLabel tag := fun h => h.2 hs
  have hsame := sameLookups_resolveTag hl record row s
  rwa [outcome_resolve_row hs] at hsame

/-- With the row keyword it does not matter which data sources there are. -/
theorem resolveTag_row_withSources (hs : tag.source = r.rowKeyword)
    (sources : List (String × DataSource)) (s : PassState) :
    outcome (({ r with sources := sources } : Resolver).resolveTag tag record row) s =
      outcome (r.resolveTag tag record row) s := by
  rw [resolveTag, resolveTag, if_neg fun h => h.2 hs, if_neg fun h => h.2 hs, outcome_bind,
    outcome_bind, outcome_resolve_row hs, outcome_resolve_row (r := { r with sources := sources }) hs]
  rfl

/-! ## Values that were fetched before -/

/-- What is found among the values fetched is an entry for the same field and record. -/
theorem exists_of_cached {v : Value} (h : cached? s source record field = some v) :
    ∃ e ∈ s.cache, e.source = source ∧ e.record.same record = true ∧ e.field = field ∧
      e.value = v := by
  obtain ⟨e, he, rfl⟩ := Option.map_eq_some_iff.1 h
  have hfound := List.find?_some he
  simp only [Bool.and_eq_true, beq_iff_eq] at hfound
  exact ⟨e, List.mem_of_find?_eq_some he, hfound.1.1, hfound.1.2, hfound.2, rfl⟩

theorem not_same_of_not_cached {e : CacheEntry} (h : cached? s source record field = none)
    (he : e ∈ s.cache) (hsource : e.source = source) (hfield : e.field = field) :
    e.record.same record = false := by
  have hnone := List.find?_eq_none.1 (Option.map_eq_none_iff.1 h) e he
  simpa [hsource, hfield] using hnone

/-- The data source would answer again what was fetched before. -/
def Repeats (r : Resolver) (source field : String) (record : RecordRef) (s : PassState) : Prop :=
  ∀ v, cached? s source record field = some v → r.sourceValue source field record.id = .ok v

theorem fetch_of_repeats (h : r.Repeats source field record s) :
    (outcome (r.fetch source field record) s).1 = (outcome (r.fetch source field record) {}).1 := by
  have hanswer {u : PassState} (hkey : record.id.keyFault? = none)
      (hc : cached? u source record field = none) :
      (outcome (r.fetch source field record) u).1 = r.sourceValue source field record.id := by
    rw [outcome_fetch_of_not_cached hkey hc]
    cases r.sourceValue source field record.id <;> rfl
  rcases hkey : record.id.keyFault? with _ | fault
  · rw [hanswer (u := {}) hkey rfl]
    rcases hc : cached? s source record field with _ | v
    · exact hanswer hkey hc
    · rw [outcome_fetch_of_cached hkey hc, h v hc]
  · rw [outcome_fetch_of_keyFault hkey, outcome_fetch_of_keyFault hkey]

theorem answer_of_repeats (h : r.Repeats source field record s) :
    r.answer s source field record row = r.answer {} source field record row := by
  rw [← (r.outcome_resolve source field record row s).1,
    ← (r.outcome_resolve source field record row {}).1]
  by_cases hs : source = r.rowKeyword
  · rw [outcome_resolve_row hs, outcome_resolve_row hs]
  · rw [resolve_of_ne hs]
    exact fetch_of_repeats h

theorem resolveTag_of_repeats (h : r.Repeats tag.source tag.field record s) :
    (outcome (r.resolveTag tag record row) s).1 = (outcome (r.resolveTag tag record row) {}).1 := by
  by_cases hl : r.AsksLabel tag
  · exact (detached_resolveTag hl).answer s {}
  · rw [(outcome_resolveTag hl s).1, (outcome_resolveTag hl {}).1, answer_of_repeats h]

end Resolver
end RecordTemplate.Render
