/-
  RecordTemplate.Proofs.Pass.Lookup

  What looking up a tag comes to.  The value of a field is answered by the row, by the values
  fetched before or by a data source (`Resolver.answer`), and everything that is done with it
  afterwards depends on this answer only.  A lookup fails exactly when a data source or the store
  of attachments does (`Resolver.fails_resolveTag`), and then the terms stay as they were.
-/

import RecordTemplate.Proofs.Failing
import RecordTemplate.Proofs.Pass.Events

namespace RecordTemplate.Render

open RecordTemplate.Template

/-! ## Failures -/

@[simp] theorem fails_sourced {α : Type} {x : Except Failure α} {name : String} :
    Fails (sourced name x) ↔ Fails x := by
  rcases x with e | a
  · cases e <;> simp [sourced]
  · simp [sourced]

/-- The failure is one of a data source. -/
def IsSource : Failure → Prop
  | .source _ _ => True
  | _ => False

theorem isSource_of_sourced {α : Type} {name : String} {x : Except Failure α} {e : Failure}
    (h : sourced name x = .error e) : IsSource e := by
  rcases x with f | a
  · cases f <;> cases h <;> trivial
  · cases h

theorem failsOnly_asSource {α : Type} (name : String) (x : Except Failure α) :
    FailsOnly IsSource (asSource name x) := by
  intro s e h
  rw [outcome_asSource] at h
  exact isSource_of_sourced h

namespace Resolver

variable (r : Resolver)

/-! ## Fetching a value -/

/-- What the data source of a keyword answers; null without a source. -/
def sourceValue (source field : String) (id : Value) : Except Failure Value :=
  match r.sources.lookup source with
  | none => .ok .null
  | some d => sourced source (d.value field id)

/-- The value of a field in a state: of the row for the row keyword, otherwise the one fetched
    before, or else what the data source answers.  Only a record that can be a key has values. -/
def answer (s : PassState) (source field : String) (record : RecordRef) (row : Option Row) :
    Except Failure Value :=
  if source = r.rowKeyword then
    match row with
    | some row => rowValue row field
    | none => .ok .null
  else
    match record.id.keyFault? with
    | some fault => .error fault
    | none =>
      match cached? s source record field with
      | some v => .ok v
      | none => r.sourceValue source field record.id

variable {r} {source field : String} {record : RecordRef} {row : Option Row} {s : PassState}

theorem outcome_checkKey (h : record.id.keyFault? = none) (s : PassState) :
    outcome (liftM record.id.checkKey : PassM Unit) s = (.ok (), s) := by
  rw [outcome_lift, Value.checkKey, h]

theorem outcome_fetch_of_keyFault {fault : Failure} (h : record.id.keyFault? = some fault)
    (s : PassState) : outcome (r.fetch source field record) s = (.error fault, s) := by
  have hcheck : outcome (liftM record.id.checkKey : PassM Unit) s = (.error fault, s) := by
    rw [outcome_lift, Value.checkKey, h]
  exact outcome_bind_error _ hcheck

theorem outcome_fetch_of_cached (hkey : record.id.keyFault? = none) {v : Value}
    (h : cached? s source record field = some v) :
    outcome (r.fetch source field record) s =
      (.ok v, { s with events := s.events ++ [.lookedUp source record.id field true] }) := by
  rw [fetch, outcome_bind_ok _ (outcome_checkKey hkey s), outcome_bind_ok _ (outcome_get s)]
  simp only [h]
  rfl

/-- What is noticed while a value is fetched that was not fetched before. -/
def missEvents (r : Resolver) (source field : String) (id : Value) : List Event :=
  .lookedUp source id field false ::
    if (r.sources.lookup source).isSome then [.asked source (.text field) id] else []

/-- Without an earlier answer the data source is asked, and its answer is kept.  If it fails,
    nothing is. -/
theorem outcome_fetch_of_not_cached (hkey : record.id.keyFault? = none)
    (h : cached? s source record field = none) :
    outcome (r.fetch source field record) s =
      match r.sourceValue source field record.id with
      | .ok v => (.ok v, { s with
          cache := s.cache ++ [⟨source, record, field, v⟩]
          events := s.events ++ r.missEvents source field record.id })
      | .error e => (.error e, { s with
          events := s.events ++ r.missEvents source field record.id }) := by
  rw [fetch, outcome_bind_ok _ (outcome_checkKey hkey s), outcome_bind_ok _ (outcome_get s)]
  simp only [h]
  rw [outcome_bind_ok _ (outcome_notice _ s)]
  unfold sourceValue missEvents
  cases r.sources.lookup source with
  | none => rfl
  | some d =>
    simp only [outcome_bind, outcome_notice, outcome_asSource, List.append_assoc,
      Option.isSome_some, if_true]
    cases sourced source (d.value field record.id) <;> rfl

/-- A fetch that fails leaves the values fetched and the terms as they were. -/
theorem fetch_of_error {e : Failure} {t : PassState}
    (h : outcome (r.fetch source field record) s = (.error e, t)) :
    t.cache = s.cache ∧ t.terms = s.terms := by
  rcases hkey : record.id.keyFault? with _ | fault
  · rcases hc : cached? s source record field with _ | v
    · rw [outcome_fetch_of_not_cached hkey hc] at h
      split at h
      · cases h
      · cases h
        exact ⟨rfl, rfl⟩
    · rw [outcome_fetch_of_cached hkey hc] at h
      cases h
  · rw [outcome_fetch_of_keyFault hkey] at h
    cases h
    exact ⟨rfl, rfl⟩

/-- The value of a field is the answer in the state before, and the terms stay. -/
theorem outcome_resolve (r : Resolver) (source field : String) (record : RecordRef)
    (row : Option Row) (s : PassState) :
    (outcome (r.resolve source field record row) s).1 = r.answer s source field record row ∧
      (outcome (r.resolve source field record row) s).2.terms = s.terms := by
  unfold resolve answer
  split
  · cases row <;> exact ⟨rfl, rfl⟩
  · -- the same three cases in which the answer is defined
    rcases hkey : record.id.keyFault? with _ | fault
    · rcases hc : cached? s source record field with _ | v
      · rw [outcome_fetch_of_not_cached hkey hc]
        cases r.sourceValue source field record.id <;> exact ⟨rfl, rfl⟩
      · rw [outcome_fetch_of_cached hkey hc]
        exact ⟨rfl, rfl⟩
    · rw [outcome_fetch_of_keyFault hkey]
      exact ⟨rfl, rfl⟩

/-! ## What is asked besides the value -/

variable {tag : Tag}

theorem detached_metadata (r : Resolver) (source field : String) (id : Value) :
    Detached (r.metadata source field id) := by
  unfold metadata
  split
  · exact Detached.sequential.pure _
  · exact Detached.sequential.bind (detached_asSource _ _) fun _ => Detached.sequential.pure _

theorem detached_inlineImage (r : Resolver) (es : Entries) : Detached (r.inlineImage es) := by
  unfold inlineImage
  split
  · exact Detached.sequential.pure _
  · refine Detached.sequential.bind (detached_asSource _ _) fun path => ?_
    split
    · exact Detached.sequential.pure _
    · exact Detached.sequential.pure _
    · refine Detached.sequential.bind (detached_asSource _ _) fun content => ?_
      split
      · exact Detached.sequential.pure _
      · exact Detached.sequential.bind (.notice _) fun _ => Detached.sequential.pure _

theorem detached_present (r : Resolver) (field : String) (v : Value) :
    Detached (r.present field v) := by
  unfold present
  split
  · split
    · exact Detached.sequential.bind (.notice _) fun _ => r.detached_inlineImage _
    · exact Detached.sequential.pure _
  · exact Detached.sequential.pure _
  · exact Detached.sequential.pure _

/-- The value of a tag whose field has a value. -/
def shown (r : Resolver) (tag : Tag) (raw : Value) : Except Failure Resolved :=
  if raw.isTermList then
    let terms := raw.sequence?.getD []
    .ok ⟨.text (termListText terms tag.properties.head?), terms⟩
  else if tag.properties = [] then
    (outcome (r.present tag.field raw.unwrapped) {}).1.map fun v => ⟨v, []⟩
  else .ok ⟨traverse raw tag.properties, []⟩

/-- The terms that are kept for the filters of a tag whose field has this value. -/
def keptTerms? : Except Failure Value → Option (List Value)
  | .ok raw => if raw.isTermList then some (raw.sequence?.getD []) else none
  | .error _ => none

/-- Whether a tag asks for the label of its field. -/
def AsksLabel (r : Resolver) (tag : Tag) : Prop :=
  tag.properties.getLast? = some labelProperty ∧ tag.source ≠ r.rowKeyword

instance : Decidable (r.AsksLabel tag) := inferInstanceAs (Decidable (_ ∧ _))

theorem detached_resolveTag (h : r.AsksLabel tag) : Detached (r.resolveTag tag record row) := by
  unfold AsksLabel at h
  rw [resolveTag, if_pos h]
  exact Detached.sequential.bind (r.detached_metadata _ _ _) fun _ => Detached.sequential.pure _

/-- The value of a tag depends on the answer for its field only. -/
theorem outcome_resolveTag (h : ¬ r.AsksLabel tag) (s : PassState) :
    (outcome (r.resolveTag tag record row) s).1 =
        (r.answer s tag.source tag.field record row).bind (r.shown tag) ∧
      (outcome (r.resolveTag tag record row) s).2.terms =
        (keptTerms? (r.answer s tag.source tag.field record row)).elim s.terms fun terms =>
          Named.set s.terms (r.termsKey tag.source tag.field) (.list terms) := by
  obtain ⟨hanswer, hterms⟩ := r.outcome_resolve tag.source tag.field record row s
  unfold AsksLabel at h
  rw [resolveTag, if_neg h, outcome_bind]
  rcases hres : outcome (r.resolve tag.source tag.field record row) s with ⟨e | raw, t⟩ <;>
    simp only [hres] at hanswer hterms <;> rw [← hanswer]
  · exact ⟨rfl, hterms⟩
  · -- the terms are those from before the fetch, unless the value is a list of terms
    show (outcome (ite _ _ _) t).1 = r.shown tag raw ∧ (outcome (ite _ _ _) t).2.terms = _
    rw [← hterms]
    unfold shown
    cases hlist : raw.isTermList with
    | true =>
      simp only [if_true, keptTerms?, hlist]
      exact ⟨rfl, rfl⟩
    | false =>
      simp only [Bool.false_eq_true, if_false, keptTerms?, hlist]
      have hdet := r.detached_present tag.field raw.unwrapped
      by_cases hprop : tag.properties = []
      · simp only [hprop, if_true, outcome_bind_pure, hdet.answer t {}]
        exact ⟨trivial, hdet.terms t⟩
      · simp only [hprop, if_false]
        exact ⟨rfl, rfl⟩

/-! ## Lookups that fail -/

/-- A step that goes on with an answer of a data source fails if there is none, or later. -/
theorem fails_asSource_bind {α β : Type} {name : String} {x : Except Failure α}
    {f : α → PassM β} :
    Fails (outcome (asSource name x >>= f) s).1 ↔
      Fails x ∨ ∃ a, x = .ok a ∧ Fails (outcome (f a) s).1 := by
  rw [outcome_bind, outcome_asSource]
  rcases x with e | a
  · cases e <;> simp [sourced]
  · simp [sourced]

/-- The store of attachments fails for the record of an image. -/
def StoreRaises (store : AttachmentStore) (es : Entries) : Prop :=
  Fails (store.file (Value.attachmentId es)) ∨
    ∃ path, path ≠ "" ∧ store.file (Value.attachmentId es) = .ok (some path) ∧
      Fails (store.read path)

/-- A lookup for a tag raises: the metadata for its label, the value of its field, or the file
    of the vector image that the value is. -/
inductive LookupRaises (r : Resolver) (s : PassState) (tag : Tag) (record : RecordRef)
    (row : Option Row) : Prop where
  | metadata {d} (label : r.AsksLabel tag) (source : r.sources.lookup tag.source = some d)
      (raises : Fails (d.metadata tag.field record.id))
  | value {d} (noLabel : ¬ r.AsksLabel tag) (noRow : tag.source ≠ r.rowKeyword)
      (notFetched : cached? s tag.source record tag.field = none)
      (source : r.sources.lookup tag.source = some d)
      (raises : Fails (d.value tag.field record.id))
  | image {v es store} (noLabel : ¬ r.AsksLabel tag) (whole : tag.properties = [])
      (found : r.answer s tag.source tag.field record row = .ok v)
      (unwrapped : v.unwrapped = .mapping es) (isImage : v.unwrapped.isVectorImage = true)
      (attachments : r.attachments = some store) (raises : StoreRaises store es)

theorem fails_metadata {id : Value} :
    Fails (outcome (r.metadata source field id) s).1 ↔
      ∃ d, r.sources.lookup source = some d ∧ Fails (d.metadata field id) := by
  unfold metadata
  cases r.sources.lookup source with
  | none => simp
  | some d => simp

theorem fails_answer (hkey : record.id.keyFault? = none) (hrow : ∀ v ∈ row, v.entries?.isSome) :
    Fails (r.answer s source field record row) ↔
      source ≠ r.rowKeyword ∧ cached? s source record field = none ∧
        ∃ d, r.sources.lookup source = some d ∧ Fails (d.value field record.id) := by
  unfold answer
  by_cases hs : source = r.rowKeyword
  · rcases row with _ | v
    · simp [hs]
    · have hv : v.entries?.isSome := hrow v rfl
      cases v <;> cases hv
      simp [hs, rowValue]
  · simp only [hkey]
    rcases cached? s source record field with _ | v
    · unfold sourceValue
      cases r.sources.lookup source <;> simp [hs]
    · simp [hs]

theorem fails_inlineImage {es : Entries} :
    Fails (outcome (r.inlineImage es) s).1 ↔
      ∃ store, r.attachments = some store ∧ StoreRaises store es := by
  unfold inlineImage StoreRaises
  cases r.attachments with
  | none => simp
  | some store =>
    simp only [Option.some.injEq, exists_eq_left', fails_asSource_bind]
    -- the file is read only under a path, and the empty one counts as none
    refine or_congr_right ?_
    constructor
    · rintro ⟨path, hpath, h⟩
      split at h
      · simp at h
      · simp at h
      · next path hne =>
        refine ⟨path, fun he => hne (by rw [he]), hpath, ?_⟩
        rcases fails_asSource_bind.1 h with h | ⟨content, -, h⟩
        · exact h
        · cases content <;> simp at h
    · rintro ⟨path, hne, hpath, h⟩
      refine ⟨some path, hpath, ?_⟩
      split
      · next he => cases he
      · next he => exact absurd (Option.some.inj he) hne
      · next he =>
        cases he
        exact fails_asSource_bind.2 (.inl h)

theorem fails_present {v : Value} :
    Fails (outcome (r.present field v) s).1 ↔
      ∃ es store, v = .mapping es ∧ v.isVectorImage = true ∧ r.attachments = some store ∧
        StoreRaises store es := by
  cases v with
  | mapping es =>
    unfold present
    cases hv : (Value.mapping es).isVectorImage with
    | true =>
      simp only [if_true, outcome_bind_ok _ (outcome_notice _ s), fails_inlineImage]
      simp
    | false => simp
  | _ => simp [present]

/-- What is a mapping, wrapped or not, is no list of terms. -/
theorem isTermList_of_unwrapped {v : Value} {es : Entries} (h : v.unwrapped = .mapping es) :
    v.isTermList = false := by
  cases v <;> first | rfl | cases h

/-- A value that was found cannot be shown only if it is the image of a tag without properties,
    and the store of attachments fails for it. -/
theorem fails_shown {v : Value} :
    Fails (r.shown tag v) ↔ tag.properties = [] ∧ ∃ es store, v.unwrapped = .mapping es ∧
      v.unwrapped.isVectorImage = true ∧ r.attachments = some store ∧ StoreRaises store es := by
  unfold shown
  constructor
  · intro h
    split at h
    · simp at h
    · split at h
      · next hp => exact ⟨hp, fails_present.1 (fails_map.1 h)⟩
      · simp at h
  · rintro ⟨hp, es, store, he, hi, ha, h⟩
    have himage : Fails (outcome (r.present tag.field v.unwrapped) {}).1 :=
      fails_present.2 ⟨es, store, he, hi, ha, h⟩
    simpa only [isTermList_of_unwrapped he, Bool.false_eq_true, hp, if_true, if_false,
      fails_map] using himage

/-- Resolving a tag fails exactly when a lookup for it raises. -/
theorem fails_resolveTag (hkey : record.id.keyFault? = none)
    (hrow : ∀ v ∈ row, v.entries?.isSome) (s : PassState) :
    Fails (outcome (r.resolveTag tag record row) s).1 ↔ LookupRaises r s tag record row := by
  by_cases hl : r.AsksLabel tag
  · have hl' := hl
    unfold AsksLabel at hl'
    rw [resolveTag, if_pos hl', outcome_bind_pure, fails_map, fails_metadata]
    constructor
    · rintro ⟨d, hd, h⟩
      exact .metadata hl hd h
    · rintro (⟨-, hd, h⟩ | ⟨hn, -, -, -, -⟩ | ⟨hn, -, -, -, -, -, -⟩)
      · exact ⟨_, hd, h⟩
      · exact absurd hl hn
      · exact absurd hl hn
  · rw [(outcome_resolveTag hl s).1, fails_bind, fails_answer hkey hrow]
    -- there is no answer for the field, or it is an image that cannot be shown
    constructor
    · rintro (⟨hs, hc, d, hd, h⟩ | ⟨v, hv, h⟩)
      · exact .value hl hs hc hd h
      · obtain ⟨hp, es, store, he, hi, ha, h⟩ := fails_shown.1 h
        exact .image hl hp hv he hi ha h
    · rintro (⟨hn, -, -⟩ | ⟨-, hs, hc, hd, h⟩ | @⟨v, es, store, -, hp, hv, he, hi, ha, h⟩)
      · exact absurd hn hl
      · exact .inl ⟨hs, hc, _, hd, h⟩
      · exact .inr ⟨v, hv, fails_shown.2 ⟨hp, es, store, he, hi, ha, h⟩⟩

/-- Which lookups raise does not depend on the events. -/
theorem LookupRaises.of_events {es : List Event} (h : LookupRaises r s tag record row) :
    LookupRaises r { s with events := es } tag record row := by
  cases h with
  | metadata hl hd h => exact .metadata hl hd h
  | value hl hs hc hd h => exact .value hl hs hc hd h
  | image hl hp hv he hi ha h => exact .image hl hp hv he hi ha h

/-- Terms are kept only for a tag that can be resolved. -/
theorem keptTerms?_of_fails {x : Except Failure Value} (h : Fails (x.bind (r.shown tag))) :
    keptTerms? x = none := by
  rcases x with e | raw
  · rfl
  · rcases hlist : raw.isTermList
    · simp [keptTerms?, hlist]
    · obtain ⟨e, h⟩ := h
      simp [Except.bind, shown, hlist] at h

/-- A tag that cannot be resolved leaves the terms as they were. -/
theorem terms_of_fails (h : Fails (outcome (r.resolveTag tag record row) s).1) :
    (outcome (r.resolveTag tag record row) s).2.terms = s.terms := by
  by_cases hl : r.AsksLabel tag
  · exact (detached_resolveTag hl).terms s
  · obtain ⟨hanswer, hterms⟩ := outcome_resolveTag hl s
    rw [hanswer] at h
    rw [hterms, keptTerms?_of_fails h]
    rfl

end Resolver
end RecordTemplate.Render
