/-
  RecordTemplate.Proofs.Pass.Transparency

  A resolver that is asked for one thing after another.  Over data sources that agree on records
  with equal identifiers, the values fetched so far never show: every request has the reply that
  it has from a new resolver (`Resolver.serveAll_transparent`).  What they do is to keep a data
  source from being called again for what it has answered.

  The invariant of a run (`Resolver.Faithful`) says of the values fetched that the data sources
  have given them, and of the calls that those with an answer are among the values fetched.
-/

import RecordTemplate.Proofs.Pass.Fetching

namespace RecordTemplate.Render

open RecordTemplate.Template

/-! ## Requests -/

/-- What a resolver can be asked for. -/
inductive Request where
  | fetch (source field : String) (record : RecordRef)
  | resolve (source field : String) (record : RecordRef) (row : Option Row)
  | metadata (source field : String) (record : RecordRef)
  | tag (tag : Tag) (record : RecordRef) (row : Option Row)

inductive Reply where
  | value (v : Value)
  | entries (es : Entries)
  | resolved (v : Resolved)

namespace Request

def record : Request → RecordRef
  | fetch _ _ record | resolve _ _ record _ | metadata _ _ record | tag _ record _ => record

/-- The keyword that says where the value comes from. -/
def keyword : Request → String
  | fetch source _ _ | resolve source _ _ _ | metadata source _ _ => source
  | tag t _ _ => t.source

/-- Whether a request may be answered by a row. -/
def mayReadRow : Request → Bool
  | resolve .. | tag .. => true
  | fetch .. | metadata .. => false

end Request

/-- The call with which the value of an entry has been looked up. -/
def CacheEntry.call (e : CacheEntry) : SourceCall := (e.source, .text e.field, e.record.id)

namespace Resolver

/-- The reply to a request. -/
def serve (r : Resolver) : Request → PassM Reply
  | .fetch source field record => .value <$> r.fetch source field record
  | .resolve source field record row => .value <$> r.resolve source field record row
  | .metadata source field record => .entries <$> r.metadata source field record.id
  | .tag tag record row => .resolved <$> r.resolveTag tag record row

/-- The replies to requests one after the other, and the state in the end.  A request that fails
    does not keep the others from being served. -/
def serveAll (r : Resolver) : List Request → PassState → List (Except Failure Reply) × PassState
  | [], s => ([], s)
  | q :: qs, s =>
    let rest := r.serveAll qs (outcome (r.serve q) s).2
    ((outcome (r.serve q) s).1 :: rest.1, rest.2)

variable {r : Resolver} {source field : String} {record : RecordRef} {records : List RecordRef}
  {q : Request} {s t : PassState}

theorem extends_serve (r : Resolver) (q : Request) (s : PassState) :
    r.Extends q.record s (outcome (r.serve q) s).2 := by
  cases q with
  | fetch source field record =>
    rw [serve, outcome_map]
    exact r.extends_fetch source field record s
  | resolve source field record row =>
    rw [serve, outcome_map]
    exact r.extends_resolve source field record row s
  | metadata source field record =>
    rw [serve, outcome_map]
    exact .same ((r.detached_metadata source field record.id).sameLookups
      (r.appends_metadata source field record.id) s)
  | tag tag record row =>
    rw [serve, outcome_map]
    exact r.extends_resolveTag tag record row s

/-! ## Data sources that answer by key -/

/-- Equal mentions are of one identifier. -/
def Identified (records : List RecordRef) : Prop :=
  ∀ a ∈ records, ∀ b ∈ records, a.mention = b.mention → a.id = b.id

/-- The data sources give the same answer, or fail in the same way, for identifiers that are the
    same key. -/
def AgreesOnKeys (r : Resolver) : Prop :=
  ∀ source d, r.sources.lookup source = some d →
    ∀ field id id', id.sameKey id' = true → d.value field id = d.value field id'

/-- The data source has an answer to a call. -/
def Returns (r : Resolver) (c : SourceCall) : Prop :=
  ∃ d field, r.sources.lookup c.1 = some d ∧ c.2.1 = .text field ∧ ¬ Fails (d.value field c.2.2)

/-- Two calls for the same field of the same record. -/
def SameCall (c d : SourceCall) : Prop :=
  c.1 = d.1 ∧ c.2.1 = d.2.1 ∧ c.2.2.sameKey d.2.2 = true

theorem sourceValue_of_same (hsources : r.AgreesOnKeys) (hmentions : Identified records)
    {a b : RecordRef} (ha : a ∈ records) (hb : b ∈ records) (hsame : a.same b = true)
    (source field : String) : r.sourceValue source field a.id = r.sourceValue source field b.id := by
  unfold RecordRef.same at hsame
  rw [Bool.or_eq_true, beq_iff_eq] at hsame
  rcases hsame with hmention | hkey
  · rw [hmentions a ha b hb hmention]
  · unfold sourceValue
    rcases hd : r.sources.lookup source with _ | d
    · rfl
    · simp only [hsources source d hd field a.id b.id hkey]

theorem returns_iff {id : Value} : r.Returns (source, .text field, id) ↔
    (r.sources.lookup source).isSome = true ∧ ¬ Fails (r.sourceValue source field id) := by
  unfold Returns sourceValue
  cases r.sources.lookup source with
  | none => simp
  | some d => simp

/-- Of a call without an answer nothing is kept. -/
theorem gains_of_not_returns {c : SourceCall} (h : c ∈ r.asks source field record.id)
    (hc : ¬ r.Returns c) : r.gains source field record = [] := by
  obtain ⟨hd, rfl⟩ := mem_asks.1 h
  rw [returns_iff, not_and, Classical.not_not] at hc
  obtain ⟨e, he⟩ := hc hd
  rw [gains, he]

/-- A call to a data source that fails leaves the values fetched as they were. -/
theorem cache_of_not_returns {c : SourceCall} (hext : r.Extends record s t)
    (hcalls : callsIn t.events = callsIn s.events ++ [c]) (hc : ¬ r.Returns c) :
    t.cache = s.cache := by
  cases hext with
  | same lookups => exact lookups.cache
  | missed notFetched cache calls =>
    have hasked : [c] = r.asks _ _ record.id := List.append_cancel_left (hcalls.symm.trans calls)
    rw [cache, gains_of_not_returns (hasked ▸ List.mem_singleton_self c) hc, List.append_nil]

/-! ## The invariant -/

/-- The values fetched are for these records and are what the data sources answer.  Every call
    with an answer has its entry, and none was made for a field and record that had one. -/
structure Faithful (r : Resolver) (records : List RecordRef) (s : PassState) : Prop where
  known : ∀ e ∈ s.cache, e.record ∈ records
  fetched : ∀ e ∈ s.cache, r.sourceValue e.source e.field e.record.id = .ok e.value
  kept : ∀ c ∈ callsIn s.events, r.Returns c → ∃ e ∈ s.cache, e.call = c
  once : (callsIn s.events).Pairwise fun c d => SameCall c d → ¬ r.Returns c

theorem faithful_empty (r : Resolver) (records : List RecordRef) : r.Faithful records {} where
  known _ h := by cases h
  fetched _ h := by cases h
  kept _ h := by cases h
  once := .nil

theorem Faithful.of_same (h : r.Faithful records s) (hsame : SameLookups s t) :
    r.Faithful records t := by
  obtain ⟨hknown, hfetched, hkept, honce⟩ := h
  rw [← hsame.cache] at hknown hfetched hkept
  rw [← hsame.calls] at hkept honce
  exact ⟨hknown, hfetched, hkept, honce⟩

/-- A value that was not fetched before is looked up: one more call, and one more entry if it has
    an answer. -/
theorem Faithful.of_missed (h : r.Faithful records s) (hmem : record ∈ records)
    (hnew : cached? s source record field = none)
    (hcache : t.cache = s.cache ++ r.gains source field record)
    (hcalls : callsIn t.events = callsIn s.events ++ r.asks source field record.id) :
    r.Faithful records t := by
  have hentry {e : CacheEntry} (he : e ∈ t.cache) : e ∈ s.cache ∨
      ∃ v, r.sourceValue source field record.id = .ok v ∧ e = ⟨source, record, field, v⟩ := by
    rw [hcache] at he
    exact (List.mem_append.1 he).imp_right mem_gains.1
  refine ⟨fun e he => ?_, fun e he => ?_, fun c hc hreturns => ?_, ?_⟩
  · rcases hentry he with he | ⟨v, -, rfl⟩
    · exact h.known e he
    · exact hmem
  · rcases hentry he with he | ⟨v, hv, rfl⟩
    · exact h.fetched e he
    · exact hv
  · rw [hcalls] at hc
    rw [hcache]
    rcases List.mem_append.1 hc with hc | hc
    · obtain ⟨e, he, hcall⟩ := h.kept c hc hreturns
      exact ⟨e, List.mem_append_left _ he, hcall⟩
    · -- the answer to the new call is the new entry
      obtain ⟨-, rfl⟩ := mem_asks.1 hc
      rcases hv : r.sourceValue source field record.id with e | v
      · exact absurd ⟨e, hv⟩ (returns_iff.1 hreturns).2
      · exact ⟨_, List.mem_append_right _ (mem_gains.2 ⟨v, hv, rfl⟩), rfl⟩
  · rw [hcalls]
    refine List.pairwise_append.2 ⟨h.once, ?_, fun c hc d hd hsame hreturns => ?_⟩
    · unfold asks
      split
      · exact List.pairwise_singleton _ _
      · exact .nil
    · -- an earlier answer would have been found among the values fetched
      obtain ⟨e, he, rfl⟩ := h.kept c hc hreturns
      obtain ⟨-, rfl⟩ := mem_asks.1 hd
      obtain ⟨hsource, hfield, hkey⟩ := hsame
      have hdiffers := not_same_of_not_cached hnew he hsource (Value.text.inj hfield)
      rw [RecordRef.same, Bool.or_eq_false_iff] at hdiffers
      exact Bool.false_ne_true (hdiffers.2.symm.trans hkey)

theorem Faithful.of_extends (h : r.Faithful records s) (hmem : record ∈ records)
    (hext : r.Extends record s t) : r.Faithful records t := by
  cases hext with
  | same lookups => exact h.of_same lookups
  | missed notFetched cache calls => exact h.of_missed hmem notFetched cache calls

theorem Faithful.repeats (h : r.Faithful records s) (hsources : r.AgreesOnKeys)
    (hmentions : Identified records) (hmem : record ∈ records) :
    r.Repeats source field record s := by
  intro v hv
  obtain ⟨e, he, rfl, hsame, rfl, rfl⟩ := exists_of_cached hv
  rw [← sourceValue_of_same hsources hmentions (h.known e he) hmem hsame]
  exact h.fetched e he

/-! ## Runs -/

/-- One request: the reply is that of a new resolver. -/
theorem Faithful.serve (h : r.Faithful records s) (hsources : r.AgreesOnKeys)
    (hmentions : Identified records) (hmem : q.record ∈ records) :
    (outcome (r.serve q) s).1 = (outcome (r.serve q) {}).1 ∧
      r.Faithful records (outcome (r.serve q) s).2 := by
  refine ⟨?_, h.of_extends hmem (r.extends_serve q s)⟩
  cases q with
  | fetch source field record =>
    rw [Resolver.serve, outcome_map, outcome_map]
    exact congrArg (Except.map _) (fetch_of_repeats (h.repeats hsources hmentions hmem))
  | resolve source field record row =>
    rw [Resolver.serve, outcome_map, outcome_map, (r.outcome_resolve source field record row s).1,
      (r.outcome_resolve source field record row {}).1]
    exact congrArg (Except.map _) (answer_of_repeats (h.repeats hsources hmentions hmem))
  | metadata source field record =>
    rw [Resolver.serve, outcome_map, outcome_map]
    exact congrArg (Except.map _) ((r.detached_metadata source field record.id).answer s {})
  | tag tag record row =>
    rw [Resolver.serve, outcome_map, outcome_map]
    exact congrArg (Except.map _) (resolveTag_of_repeats (h.repeats hsources hmentions hmem))

/-- Requests one after the other. -/
theorem Faithful.serveAll (h : r.Faithful records s) (hsources : r.AgreesOnKeys)
    (hmentions : Identified records) {qs : List Request} (hmem : ∀ q ∈ qs, q.record ∈ records) :
    (r.serveAll qs s).1 = qs.map (fun q => (outcome (r.serve q) {}).1) ∧
      r.Faithful records (r.serveAll qs s).2 := by
  induction qs generalizing s with
  | nil => exact ⟨rfl, h⟩
  | cons q qs ih =>
    obtain ⟨hreply, hnext⟩ := h.serve hsources hmentions (hmem q List.mem_cons_self)
    obtain ⟨hreplies, hlast⟩ := ih hnext fun q hq => hmem q (List.mem_cons_of_mem _ hq)
    refine ⟨?_, hlast⟩
    rw [List.map_cons, ← hreply, ← hreplies]
    rfl

/-! ## Requests that fail, and requests to a row -/

/-- A request that fails leaves the values fetched as they were, unless it is for a tag whose
    value has been found and cannot be shown. -/
theorem cache_serve_of_fails (h : Fails (outcome (r.serve q) s).1) :
    (outcome (r.serve q) s).2.cache = s.cache ∨
      ∃ tag record row, q = .tag tag record row ∧ r.ImageRaises s tag record row ∧
        (outcome (r.serve q) s).2.cache =
          (outcome (r.resolve tag.source tag.field record row) s).2.cache := by
  cases q with
  | fetch source field record =>
    rw [Resolver.serve, outcome_map] at h ⊢
    obtain ⟨e, he⟩ := fails_map.1 h
    exact .inl (fetch_of_error (Prod.ext he rfl)).1
  | resolve source field record row =>
    rw [Resolver.serve, outcome_map] at h ⊢
    exact .inl (cache_resolve_of_fails (fails_map.1 h))
  | metadata source field record =>
    rw [Resolver.serve, outcome_map]
    exact .inl ((r.detached_metadata source field record.id).cache s)
  | tag tag record row =>
    rw [Resolver.serve, outcome_map] at h ⊢
    rcases cache_resolveTag_of_fails (fails_map.1 h) with h | ⟨himage, h⟩
    · exact .inl h
    · exact .inr ⟨tag, record, row, rfl, himage, h⟩

/-- A request with the row keyword that may read a row leaves the values fetched and the data
    sources alone, and it does not matter which data sources there are. -/
theorem serve_row (hrow : q.mayReadRow = true) (hkeyword : q.keyword = r.rowKeyword)
    (s : PassState) :
    SameLookups s (outcome (r.serve q) s).2 ∧ ∀ sources,
      outcome (({ r with sources := sources } : Resolver).serve q) s = outcome (r.serve q) s := by
  cases q with
  | fetch source field record => cases hrow
  | metadata source field record => cases hrow
  | resolve source field record row =>
    have hs : source = r.rowKeyword := hkeyword
    simp only [Resolver.serve, outcome_map, outcome_resolve_row hs]
    refine ⟨.refl s, fun sources => ?_⟩
    rw [outcome_resolve_row (r := { r with sources := sources }) hs]
  | tag tag record row =>
    simp only [Resolver.serve, outcome_map, resolveTag_row_withSources (r := r) hkeyword]
    exact ⟨sameLookups_resolveTag_row hkeyword s, fun _ => trivial⟩

/-- The values fetched are transparent.  Over data sources that agree on records with equal
    identifiers, every request has the reply that it has from a new resolver.  A data source that
    has answered for a field of a record is not called for it again, and every value fetched is
    the one that it answers.  In any state, a request during which a data source fails leaves the
    values fetched as they were, and so does a request that fails, unless it is for a tag whose
    value is an image that cannot be read; then this value has been fetched.  With the row keyword
    a request that may read a row has nothing to do with data sources and values fetched. -/
theorem serveAll_transparent (r : Resolver) (requests : List Request)
    (hsources : r.AgreesOnKeys) (hmentions : Identified (requests.map Request.record)) :
    (r.serveAll requests {}).1 = requests.map (fun q => (outcome (r.serve q) {}).1) ∧
    (callsIn (r.serveAll requests {}).2.events).Pairwise
      (fun c d => SameCall c d → ¬ r.Returns c) ∧
    (∀ e ∈ (r.serveAll requests {}).2.cache,
      r.sourceValue e.source e.field e.record.id = .ok e.value) ∧
    (∀ q s c, callsIn (outcome (r.serve q) s).2.events = callsIn s.events ++ [c] →
      ¬ r.Returns c → (outcome (r.serve q) s).2.cache = s.cache) ∧
    (∀ q s, Fails (outcome (r.serve q) s).1 → (outcome (r.serve q) s).2.cache = s.cache ∨
      ∃ tag record row, q = .tag tag record row ∧ r.ImageRaises s tag record row ∧
        (outcome (r.serve q) s).2.cache =
          (outcome (r.resolve tag.source tag.field record row) s).2.cache) ∧
    (∀ q s, q.mayReadRow = true → q.keyword = r.rowKeyword →
      SameLookups s (outcome (r.serve q) s).2 ∧ ∀ sources,
        outcome (({ r with sources := sources } : Resolver).serve q) s =
          outcome (r.serve q) s) := by
  have hrun := (r.faithful_empty (requests.map Request.record)).serveAll hsources hmentions
    (fun q hq => List.mem_map_of_mem hq)
  exact ⟨hrun.1, hrun.2.once, hrun.2.fetched,
    fun q s c hcalls hc => cache_of_not_returns (r.extends_serve q s) hcalls hc,
    fun q s h => cache_serve_of_fails h, fun q s hrow hkeyword => serve_row hrow hkeyword s⟩

end Resolver

/-! ## Requests for equal records -/

/-- A resolver whose data source fails for one field. -/
def partialResolver : Resolver :=
  ⟨[("custom", ⟨"custom", fun field _ =>
      if field = "bad" then .error (.unhashable "list") else .ok (.text "shown"),
      fun _ _ => .ok none, fun _ => .ok []⟩)], none, "row"⟩

/-- Both fields of one record, whose identifier is given as an integer, a truth value and a
    double precision number; then a keyword without a data source, and a row. -/
def mixedRequests : List Request :=
  [.fetch "custom" "good" ⟨.int 1, 0⟩, .resolve "custom" "bad" ⟨.int 1, 1⟩ none,
    .fetch "custom" "good" ⟨.bool true, 2⟩, .resolve "custom" "bad" ⟨.bool true, 3⟩ none,
    .resolve "custom" "good" ⟨.float (.finite false 1 0), 4⟩ none,
    .fetch "other" "good" ⟨.int 1, 5⟩, .metadata "custom" "good" ⟨.int 1, 6⟩,
    .resolve "row" "good" ⟨.int 1, 7⟩ (some (.mapping [("good", .int 2)]))]

/-- The data source is called once for the field that it answers, and again for the other. -/
theorem serveAll_transparent_mixed :
    partialResolver.AgreesOnKeys ∧ Resolver.Identified (mixedRequests.map Request.record) ∧
      callsIn (partialResolver.serveAll mixedRequests {}).2.events =
        [("custom", .text "good", .int 1), ("custom", .text "bad", .int 1),
          ("custom", .text "bad", .bool true)] ∧
      (partialResolver.serveAll mixedRequests {}).1 =
        mixedRequests.map fun q => (outcome (partialResolver.serve q) {}).1 := by
  have hsources : partialResolver.AgreesOnKeys := by
    intro source d hd field id id' _
    rw [partialResolver, List.lookup_cons] at hd
    split at hd
    · cases hd
      rfl
    · cases hd
  have hmentions : Resolver.Identified (mixedRequests.map Request.record) := by
    simp [Resolver.Identified, mixedRequests, Request.record]
  exact ⟨hsources, hmentions, rfl,
    (Resolver.serveAll_transparent partialResolver mixedRequests hsources hmentions).1⟩

/-! ## Requests that are not transparent -/

/-- A resolver whose only value is a vector image, and whose store of attachments fails. -/
def unreadableImages : Resolver where
  sources := [sourceOf "custom" (.mapping [("mime_type", .text "image/svg+xml")])]
  attachments := some ⟨fun _ => .error (.unhashable "list"), fun _ => .ok none⟩
  rowKeyword := "row"

/-- A fetch takes the row keyword like any other: its value is kept, and a data source with this
    keyword is called.  And a tag whose image cannot be read fails, but its value has been
    fetched. -/
theorem not_forall_untouched :
    (¬ ∀ (r : Resolver) (q : Request), q.keyword = r.rowKeyword →
      (outcome (r.serve q) {}).2.cache = []) ∧
    (¬ ∀ (r : Resolver) (q : Request), q.keyword = r.rowKeyword →
      callsIn (outcome (r.serve q) {}).2.events = []) ∧
    ¬ ∀ (r : Resolver) (q : Request), Fails (outcome (r.serve q) {}).1 →
      (outcome (r.serve q) {}).2.cache = [] := by
  refine ⟨fun h => ?_, fun h => ?_, fun h => ?_⟩
  · cases h ⟨[], none, "row"⟩ (.fetch "row" "x" ⟨.int 1, 0⟩) rfl
  · cases h ⟨[sourceOf "row" (.text "shown")], none, "row"⟩ (.fetch "row" "x" ⟨.int 1, 0⟩) rfl
  · cases h unreadableImages (.tag ⟨"custom", ["logo"], [], "%custom:logo%".toList, 0⟩ ⟨.int 1, 0⟩
      none) ⟨_, rfl⟩

end RecordTemplate.Render
