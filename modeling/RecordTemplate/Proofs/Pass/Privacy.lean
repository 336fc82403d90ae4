/-
  RecordTemplate.Proofs.Pass.Privacy

  Private attributes and what a pass shows.

  A segment of a path that asks a value other than a mapping for a private name leads to null
  (`followPath_of_asksPrivate`), and so does a private field of a record that is no mapping
  (`PropertyStore.value_of_isPrivateName`).  Beyond single tags, a pass over the public views of all
  values does to the view of a state what the pass itself does to the state
  (`Pass.mirrors_render`), so that no text and no diagnostic depends on a private attribute.  The
  exception is a list of terms: its first property is read from each term whatever its name, and the
  reserved attributes show.
-/

import RecordTemplate.Proofs.Filter.Discretion
import RecordTemplate.Proofs.Mirroring
import RecordTemplate.Proofs.Pass.Properties

namespace RecordTemplate

open RecordTemplate.Template

/-! ## Sources -/

/-- A source that answers with views. -/
def DataSource.publicView (d : DataSource) : DataSource :=
  { d with
    value := fun field id => (d.value field id).map Value.publicView
    metadata := fun field id => (d.metadata field id).map fun about =>
      about.map Value.publicEntries }

/-- A store that finds the files of attachments without their private attributes. -/
def AttachmentStore.IsDiscreet (store : AttachmentStore) : Prop :=
  ∀ id, store.file id.publicView = store.file id

namespace FileStore

/-- No path is kept under the text of a value that holds other values. -/
def IsKeyedByScalars (s : FileStore) : Prop :=
  ∀ e ∈ s.paths, ∀ id : Value, id.isContainer = true → e.1.sameKey (.text id.display) = false

/-- The path under a container is the one under the container itself. -/
theorem path?_of_isContainer {s : FileStore} (h : s.IsKeyedByScalars) {id : Value}
    (hid : id.isContainer = true) : s.path? id = Keyed.find s.paths id := by
  have hnone : Keyed.find s.paths (.text id.display) = .ok none := by
    have hfind : s.paths.find? (fun e => e.1.sameKey (.text id.display)) = none :=
      List.find?_eq_none.2 fun e he => by rw [h e he id hid]; decide
    rw [Keyed.find, Keyed.get?, hfind]
    rfl
  have hnull : id.isNull = false := by cases id <;> first | rfl | cases hid
  rw [path?, hnone, hnull]
  rcases Keyed.find s.paths id with e | _ | path <;> rfl

theorem isDiscreet {s : FileStore} (h : s.IsKeyedByScalars) (tree : FileTree) :
    (s.toAttachmentStore tree).IsDiscreet := by
  intro id
  have hpath : s.path? id.publicView = s.path? id := by
    obtain hself | ⟨hid, hview⟩ := id.publicView_eq_or_isBlank
    · rw [hself]
    · rw [path?_of_isContainer h hid.1, path?_of_isContainer h hview.1, Keyed.find_publicView]
  show s.file tree id.publicView = s.file tree id
  rw [file, file, hpath]

end FileStore

namespace PropertyStore

/-- A store whose records are known by their views only. -/
def publicView (s : PropertyStore) : PropertyStore :=
  { s with records := s.records.map fun e => (e.1, e.2.publicView) }

variable {s : PropertyStore} {field : String} {id record : Value}

theorem lookup_of_not_isComputed (h : s.isComputed field = false) :
    s.computed.lookup field = none := by
  rwa [isComputed, Option.isSome_eq_false_iff, Option.isNone_iff_eq_none] at h

theorem property_of_not_mapping (h : record.entries? = none) (field : String) :
    property record field =
      if isPrivateName field then .null else (record.attribute? field).getD .null := by
  cases record with
  | mapping es => cases h
  | _ => rfl

/-- The value of a field that is not computed is a property of the record. -/
theorem value_of_not_isComputed (hcomputed : s.isComputed field = false)
    (hrecord : s.record id = .ok record) :
    s.value field id = .ok (if record.isNull then .null else property record field) := by
  rw [value, hrecord]
  show (if record.isNull = true then _ else _) = _
  rw [lookup_of_not_isComputed hcomputed]
  split <;> rfl

/-- A private field of a record that is no mapping is null, unless it is computed. -/
theorem value_of_isPrivateName (hcomputed : s.isComputed field = false)
    (hfield : isPrivateName field = true) (hrecord : s.record id = .ok record)
    (hmapping : record.entries? = none) : s.value field id = .ok .null := by
  rw [value_of_not_isComputed hcomputed hrecord, property_of_not_mapping hmapping, if_pos hfield,
    ite_self]

theorem record_publicView (s : PropertyStore) (id : Value) :
    s.publicView.record id = (s.record id).map Value.publicView := by
  have hget (key : Value) : Keyed.get? s.publicView.records key =
      (Keyed.get? s.records key).map Value.publicView := by
    rw [Keyed.get?, Keyed.get?, publicView, List.find?_map, Option.map_map, Option.map_map]
    rfl
  unfold record Keyed.find
  rw [show s.publicView.defaultId = s.defaultId from rfl]
  cases (recordOr s.defaultId id).checkKey with
  | error e => rfl
  | ok u =>
    refine congrArg Except.ok ?_
    rw [hget]
    cases Keyed.get? s.records (recordOr s.defaultId id) <;> rfl

theorem property_publicView (record : Value) (field : String) :
    property record.publicView field = (property record field).publicView := by
  by_cases hmapping : ∃ es, record = .mapping es
  · obtain ⟨es, rfl⟩ := hmapping
    exact Value.value_publicEntries es field
  · have hnone : record.entries? = none ∧ record.publicView.entries? = none := by
      cases record with
      | mapping es => exact absurd ⟨es, rfl⟩ hmapping
      | _ => exact ⟨rfl, rfl⟩
    rw [property_of_not_mapping hnone.1, property_of_not_mapping hnone.2]
    cases hname : isPrivateName field with
    | true => rfl
    | false =>
      rw [Value.attribute?_publicView hname]
      cases record.attribute? field <;> rfl

/-- A field that is not computed has the view of its value if the record is known by its view. -/
theorem value_publicView (hcomputed : s.isComputed field = false) (id : Value) :
    s.publicView.value field id = (s.value field id).map Value.publicView := by
  have hview := s.record_publicView id
  cases hrecord : s.record id with
  | error e =>
    rw [hrecord] at hview
    rw [value, value, hrecord, hview]
    rfl
  | ok record =>
    rw [hrecord] at hview
    rw [value_of_not_isComputed hcomputed hrecord,
      value_of_not_isComputed (s := s.publicView) hcomputed hview, Value.isNull_publicView,
      property_publicView]
    split <;> rfl

end PropertyStore

/-! ## Terms of a list -/

namespace Term

/-- The text of a term read from its public attributes only: its name, or one of them. -/
def publicText? (t : Term) (property : Option String) : Option String :=
  match property with
  | none => some t.name
  | some name => (t.attribute? name).map Value.scalarText

variable {name : String}

theorem reservedText?_of_public (t : Term) (h : isPrivateName name = false) :
    t.reservedText? name = none := by
  unfold reservedText?
  split <;> first | rfl | exact absurd h (by decide)

/-- Only private names are reserved. -/
theorem text?_of_public (t : Term) {property : Option String}
    (h : ∀ name ∈ property, isPrivateName name = false) :
    t.text? property = t.publicText? property := by
  cases property with
  | none => rfl
  | some name =>
    rw [text?, attributeText?, publicText?, reservedText?_of_public t (h name rfl)]
    cases t.attribute? name <;> rfl

end Term

namespace Render

/-! ## Paths -/

/-- Somewhere along a path a private name is asked of a value that is no mapping. -/
def AsksPrivate (v : Value) : List String → Prop
  | [] => False
  | name :: path =>
    v.entries? = none ∧ isPrivateName name = true ∨
      ∃ w, stepInto? v name = some w ∧ AsksPrivate w path

theorem followPath_of_asksPrivate {v : Value} {path : List String} (h : AsksPrivate v path) :
    followPath v path = .null := by
  induction path generalizing v with
  | nil => exact h.elim
  | cons name path ih =>
    obtain ⟨hmapping, hname⟩ | ⟨w, hstep, hrest⟩ := h
    · have hstep : stepInto? v name = none := by
        cases v with
        | mapping es => cases hmapping
        | _ => simp only [stepInto?, hname, if_true]
      rw [followPath, hstep]
    · simp only [followPath, hstep]
      exact ih hrest

theorem stepInto?_publicView (v : Value) (name : String) :
    stepInto? v.publicView name = (stepInto? v name).map Value.publicView := by
  cases v with
  | mapping es => exact Value.value?_publicEntries es name
  | object es =>
    have hattribute := Value.value?_publicAttributes es name
    cases hname : isPrivateName name with
    | true => simp [Value.publicView, stepInto?, hname]
    | false => simpa [Value.publicView, stepInto?, hname, Value.attributes?] using hattribute
  | term t =>
    have hattribute := Value.value?_publicEntries t.attributes name
    have hown : Value.publicEntries t.attributes = t.attributes := rfl
    rw [hown] at hattribute
    cases hname : isPrivateName name with
    | true => simp [Value.publicView, stepInto?, hname]
    | false => simpa [Value.publicView, stepInto?, hname, Value.attributes?] using hattribute
  | _ => simp [Value.publicView, stepInto?, Value.attributes?]

theorem followPath_publicView (v : Value) (path : List String) :
    followPath v.publicView path = (followPath v path).publicView := by
  induction path generalizing v with
  | nil => rfl
  | cons name path ih =>
    rw [followPath, followPath, stepInto?_publicView]
    cases stepInto? v name with
    | none => rfl
    | some w => exact ih w

theorem traverse_publicView (v : Value) (path : List String) :
    traverse v.publicView path = (traverse v path).publicView := by
  rw [traverse, Value.unwrapped_publicView, followPath_publicView, traverse]

/-! ## Passes over views -/

def Resolved.publicView (r : Resolved) : Resolved :=
  ⟨r.raw.publicView, Value.publicViews r.terms⟩

def CacheEntry.publicView (e : CacheEntry) : CacheEntry := { e with value := e.value.publicView }

/-- A state in which only views were fetched. -/
def PassState.publicView (s : PassState) : PassState :=
  { s with cache := s.cache.map CacheEntry.publicView, terms := Value.publicEntries s.terms }

/-- A resolver that knows only the views of values. -/
def Resolver.publicView (r : Resolver) : Resolver :=
  { r with sources := r.sources.map fun e => (e.1, e.2.publicView) }

/-- A pass that knows only the views of values. -/
def Pass.publicView (p : Pass) : Pass :=
  { p with resolver := p.resolver.publicView, row := p.row.map Value.publicView }

theorem sourced_map {α β : Type} (name : String) (x : Except Failure α) (f : α → β) :
    sourced name (x.map f) = (sourced name x).map f := by
  rcases x with e | a
  · cases e <;> rfl
  · rfl

theorem rowValue_publicView (row : Row) (field : String) :
    rowValue row.publicView field = (rowValue row field).map Value.publicView := by
  cases row with
  | mapping es => exact congrArg Except.ok (Value.value_publicEntries es field)
  | _ => exact congrArg Except.error (Value.noEntries_publicView _)

theorem mirrors_notice (e : Event) : Mirrors PassState.publicView (notice e) (notice e) :=
  fun _ => rfl

namespace Resolver

variable (r : Resolver) {source field : String} {record : RecordRef} {row : Option Row}

theorem cached?_publicView (s : PassState) :
    cached? s.publicView source record field =
      (cached? s source record field).map Value.publicView := by
  rw [cached?, cached?, PassState.publicView, List.find?_map, Option.map_map, Option.map_map]
  rfl

theorem publicView_rowKeyword : r.publicView.rowKeyword = r.rowKeyword := rfl

theorem lookup_publicView (source : String) :
    r.publicView.sources.lookup source = (r.sources.lookup source).map DataSource.publicView :=
  Named.lookup_map r.sources DataSource.publicView source

theorem sourceValue_publicView (id : Value) :
    r.publicView.sourceValue source field id =
      (r.sourceValue source field id).map Value.publicView := by
  rw [sourceValue, sourceValue, lookup_publicView]
  cases r.sources.lookup source with
  | none => rfl
  | some d => exact sourced_map source (d.value field id) Value.publicView

theorem missEvents_publicView (id : Value) :
    r.publicView.missEvents source field id = r.missEvents source field id := by
  rw [missEvents, missEvents, lookup_publicView, Option.isSome_map]

/-! ### Lookups -/

/-- Fetching a view leaves the view of the state that fetching the value leaves. -/
theorem mirrors_fetch : Mirrors PassState.publicView
    (Value.publicView <$> r.fetch source field record) (r.publicView.fetch source field record) := by
  intro s
  rw [outcome_map]
  rcases hkey : record.id.keyFault? with _ | fault
  · have hview : cached? s.publicView source record field = _ := cached?_publicView s
    rcases hcached : cached? s source record field with _ | v <;> rw [hcached] at hview
    · rw [outcome_fetch_of_not_cached hkey hcached, outcome_fetch_of_not_cached hkey hview,
        sourceValue_publicView, missEvents_publicView]
      cases r.sourceValue source field record.id with
      | error e => rfl
      | ok v => simp [Except.map, PassState.publicView, CacheEntry.publicView]
    · rw [outcome_fetch_of_cached hkey hcached, outcome_fetch_of_cached hkey hview]
      rfl
  · rw [outcome_fetch_of_keyFault hkey, outcome_fetch_of_keyFault hkey]
    rfl

theorem mirrors_resolve : Mirrors PassState.publicView
    (Value.publicView <$> r.resolve source field record row)
    (r.publicView.resolve source field record (row.map Value.publicView)) := by
  unfold resolve
  rw [publicView_rowKeyword]
  split
  · intro s
    cases row with
    | none => rfl
    | some row =>
      dsimp only [Option.map_some]
      rw [rowValue_publicView, outcome_map, outcome_lift, outcome_lift]
  · exact r.mirrors_fetch

theorem mirrors_metadata (id : Value) : Mirrors PassState.publicView
    (Value.publicEntries <$> r.metadata source field id) (r.publicView.metadata source field id) := by
  intro s
  rw [metadata, metadata, lookup_publicView]
  cases r.sources.lookup source with
  | none => rfl
  | some d =>
    dsimp only [Option.map_some]
    rw [outcome_map, outcome_bind_pure, outcome_bind_pure, outcome_asSource, outcome_asSource]
    dsimp only [DataSource.publicView]
    rw [sourced_map]
    rcases sourced source (d.metadata field id) with e | _ | about <;> rfl

variable (hstore : ∀ store ∈ r.attachments, store.IsDiscreet)
include hstore

theorem mirrors_inlineImage (es : Entries) : Mirrors PassState.publicView
    (Value.publicView <$> r.inlineImage es) (r.publicView.inlineImage (Value.publicEntries es)) := by
  have hsame {α : Type} (name : String) (x : Except Failure α) :
      Mirrors PassState.publicView (asSource name x) (asSource name x) := fun s => by
    rw [outcome_asSource, outcome_asSource]
  rw [inlineImage, inlineImage, show r.publicView.attachments = r.attachments from rfl]
  cases hattachments : r.attachments with
  | none => exact fun _ => rfl
  | some store =>
    dsimp only
    rw [Value.attachmentId_publicEntries, hstore store hattachments, map_bind]
    refine Mirrors.bind (hsame _ _) fun file => ?_
    cases file with
    | none => exact fun _ => rfl
    | some path =>
      by_cases hempty : path = ""
      · subst hempty
        exact fun _ => rfl
      · simp only [map_bind]
        refine Mirrors.bind (hsame _ _) fun content => ?_
        cases content <;> exact fun _ => rfl

theorem mirrors_present (field : String) (v : Value) : Mirrors PassState.publicView
    (Value.publicView <$> r.present field v) (r.publicView.present field v.publicView) := by
  cases v with
  | mapping es =>
    have himage : (Value.mapping (Value.publicEntries es)).isVectorImage =
        (Value.mapping es).isVectorImage := Value.isVectorImage_publicView (.mapping es)
    simp only [Value.publicView, present, himage]
    split
    · rw [map_bind]
      exact Mirrors.bind (mirrors_notice _) fun _ => r.mirrors_inlineImage hstore es
    · exact fun _ => rfl
  | _ => exact fun _ => rfl

theorem mirrors_resolveTag (tag : Tag) (record : RecordRef) (row : Option Row) :
    Mirrors PassState.publicView (Resolved.publicView <$> r.resolveTag tag record row)
      (r.publicView.resolveTag tag record (row.map Value.publicView)) := by
  rw [resolveTag, resolveTag, publicView_rowKeyword]
  split
  · rw [map_bind]
    refine Mirrors.bind_map (r.mirrors_metadata _) fun about => ?_
    rw [Value.value?_publicEntries]
    cases Entries.value? about "label" <;> exact fun _ => rfl
  · rw [map_bind]
    refine Mirrors.bind_map r.mirrors_resolve fun raw => ?_
    rw [Value.isTermList_publicView]
    split
    · intro s
      have hitems : (raw.sequence?.map Value.publicViews).getD [] =
          Value.publicViews (raw.sequence?.getD []) := by cases raw.sequence? <;> rfl
      rw [Value.sequence?_publicView, hitems, outcome_map]
      simp only [Value.termListText_publicViews, outcome_bind, outcome_modify, outcome_pure,
        PassState.publicView, Value.publicEntries_set]
      rfl
    · split
      · rw [map_bind, Value.unwrapped_publicView]
        exact Mirrors.bind_map (r.mirrors_present hstore _ _) fun v _ => rfl
      · rw [traverse_publicView]
        exact fun _ => rfl

end Resolver

namespace Pass

/-! ### Tags and templates -/

/-- Neither the filters nor the store of attachments tell a value from its view. -/
structure IsDiscreet (p : Pass) : Prop where
  filters : p.filters.IsDiscreet
  attachments : ∀ store ∈ p.resolver.attachments, store.IsDiscreet

theorem IsDiscreet.of_builtin {p : Pass} (hfilters : p.filters.IsBuiltin)
    (hstore : ∀ store ∈ p.resolver.attachments, ∃ (s : FileStore) (tree : FileTree),
      store = s.toAttachmentStore tree ∧ s.IsKeyedByScalars) : p.IsDiscreet where
  filters := hfilters.isDiscreet
  attachments store h := by
    obtain ⟨s, tree, rfl, hkeys⟩ := hstore store h
    exact FileStore.isDiscreet hkeys tree

section Discreet

variable {p : Pass} (hp : p.IsDiscreet)
include hp

theorem mirrors_resolveOrFail (tag : Tag) : Mirrors PassState.publicView
    (Except.map Resolved.publicView <$> p.resolveOrFail tag) (p.publicView.resolveOrFail tag) := by
  intro s
  have hresolved := p.resolver.mirrors_resolveTag hp.attachments tag ⟨p.recordId, 0⟩ p.row s
  rw [outcome_map] at hresolved
  rw [outcome_map, outcome_resolveOrFail, outcome_resolveOrFail]
  change outcome (p.publicView.resolver.resolveTag tag ⟨p.publicView.recordId, 0⟩
    p.publicView.row) s.publicView = _ at hresolved
  rw [hresolved]
  rcases outcome (p.resolver.resolveTag tag ⟨p.recordId, 0⟩ p.row) s with ⟨e | resolved, t⟩
  · cases e <;> rfl
  · rfl

/-- The view of a value shows as the value, and what is noticed of it is the same. -/
theorem mirrors_showResolved (tag : Tag) (resolved : Resolved) : Mirrors PassState.publicView
    (p.showResolved tag resolved) (p.publicView.showResolved tag resolved.publicView) := by
  intro s
  have hchain : p.publicView.filters.applyChain
      (p.publicView.filterContext tag (Value.publicEntries s.terms)) resolved.raw.publicView
        tag.filters = _ :=
    Registry.applyChain_publicView hp.filters (p.filterContext tag s.terms) resolved.raw tag.filters
  have hevents : p.publicView.shownEvents tag resolved.publicView (Value.publicEntries s.terms) =
      p.shownEvents tag resolved s.terms := by
    simp only [shownEvents, Resolved.publicView, Value.isNull_publicView, hchain]
    rfl
  rw [outcome_showResolved, outcome_showResolved]
  dsimp only [PassState.publicView] at hevents ⊢
  rw [hevents]
  simp only [Resolved.publicView, hchain, Value.render_publicView]

theorem mirrors_tagText (tag : Tag) :
    Mirrors PassState.publicView (p.tagText tag) (p.publicView.tagText tag) := by
  refine Mirrors.bind_map (mirrors_resolveOrFail hp tag) fun answer => ?_
  cases answer with
  | error message => exact fun _ => rfl
  | ok resolved => exact mirrors_showResolved hp tag resolved

theorem mirrors_renderTag (tag : Tag) :
    Mirrors PassState.publicView (p.renderTag tag) (p.publicView.renderTag tag) :=
  Mirrors.bind (mirrors_notice _) fun _ => Mirrors.bind (mirrors_tagText hp tag) fun _ =>
    Mirrors.bind (mirrors_notice _) fun _ => Mirrors.pure _

theorem mirrors_testBranch (text : List Char) :
    Mirrors PassState.publicView (p.testBranch text) (p.publicView.testBranch text) :=
  Mirrors.bind (mirrors_notice _) fun _ =>
    Mirrors.evaluate (fun t => Mirrors.substituteTags (mirrors_renderTag hp) t) mirrors_notice text

/-- A pass over views does to the view of a state what the pass does to the state. -/
theorem mirrors_render (text : List Char) :
    Mirrors PassState.publicView (p.render text) (p.publicView.render text) :=
  Mirrors.renderTemplate (mirrors_testBranch hp) (mirrors_renderTag hp) mirrors_notice p.limit text

/-- Passes that know the same views come to the same text, and the same happens in them. -/
theorem render_congr {q : Pass} (hviews : p.publicView = q.publicView)
    (text : List Char) :
    (outcome (p.render text) {}).1 = (outcome (q.render text) {}).1 ∧
      (outcome (p.render text) {}).2.events = (outcome (q.render text) {}).2.events := by
  have hq : q.IsDiscreet := by
    obtain ⟨hfilters, hattachments⟩ := hp
    -- a view has the filters and the store of the pass
    change p.publicView.filters.IsDiscreet at hfilters
    change ∀ store ∈ p.publicView.resolver.attachments, _ at hattachments
    rw [hviews] at hfilters hattachments
    exact ⟨hfilters, hattachments⟩
  have hsame : outcome (p.publicView.render text) {} = outcome (q.publicView.render text) {} := by
    rw [hviews]
  obtain ⟨hanswer, hstate⟩ := Prod.mk.inj
    ((mirrors_render hp text {}).symm.trans (hsame.trans (mirrors_render hq text {})))
  have hevents := congrArg PassState.events hstate
  exact ⟨hanswer, hevents⟩

end Discreet

/-! ## Private names -/

section Tags

variable {p : Pass} {tag : Tag} {s : PassState} {raw : Value}

/-- A tag that asks an object for a private name has the value null, and no text. -/
theorem resolveTag_of_asksPrivate (hlabel : ¬ p.resolver.AsksLabel tag)
    (hanswer : p.resolver.answer s tag.source tag.field ⟨p.recordId, 0⟩ p.row = .ok raw)
    (hlist : raw.isTermList = false) (hasks : AsksPrivate raw.unwrapped tag.properties) :
    (outcome (p.resolver.resolveTag tag ⟨p.recordId, 0⟩ p.row) s).1 = .ok ⟨.null, []⟩ ∧
      (tag.filters = [] → (outcome (p.renderTag tag) s).1 = .ok []) := by
  have hproperties : tag.properties ≠ [] := by
    intro hnil
    rw [hnil] at hasks
    exact hasks
  have hnull : traverse raw tag.properties = .null := followPath_of_asksPrivate hasks
  constructor
  · rw [(Resolver.outcome_resolveTag hlabel s).1, hanswer]
    simp only [Except.bind, Resolver.shown, hlist, Bool.false_eq_true, if_false, hproperties, hnull]
  · intro hfilters
    rw [text_path hproperties hfilters hlabel hanswer hlist, hnull]
    rfl

/-- The value of a list of terms is read from public attributes, if that is what is asked for. -/
theorem resolveTag_of_public (hlabel : ¬ p.resolver.AsksLabel tag)
    (hanswer : p.resolver.answer s tag.source tag.field ⟨p.recordId, 0⟩ p.row = .ok raw)
    (hlist : raw.isTermList = true)
    (hpublic : ∀ name ∈ tag.properties.head?, isPrivateName name = false) :
    (outcome (p.resolver.resolveTag tag ⟨p.recordId, 0⟩ p.row) s).1 =
      .ok ⟨.text (listSeparator.intercalate (((raw.sequence?.getD []).filterMap
        Value.term?).filterMap (·.publicText? tag.properties.head?))), raw.sequence?.getD []⟩ := by
  have htexts : (fun t : Term => t.text? tag.properties.head?) =
      fun t => t.publicText? tag.properties.head? := funext fun t => t.text?_of_public hpublic
  rw [(Resolver.outcome_resolveTag hlabel s).1, hanswer]
  simp only [Except.bind, Resolver.shown, hlist, if_true, termListText, htexts]

end Tags

/-- An object with a public and a private attribute. -/
def secretive (secret : String) : Value :=
  .object [("name", .text "plan"), ("_secret", .text secret)]

/-- A file under a number. -/
def logoFiles : FileStore := { paths := [(.int 7, "/logo.svg")] }

theorem isKeyedByScalars_logoFiles : logoFiles.IsKeyedByScalars := by
  intro e he id _
  rw [List.mem_singleton.1 he]
  rfl

/-- A pass over such an object and a list of terms, with a store of files. -/
def secretPass (secret : String) : Pass :=
  let sources := [sourceOf "custom" (secretive secret),
    sourceOf "native" (.list [.term { name := "News", slug := "news" }])]
  { ofSources sources .builtin with
    resolver := ⟨sources, some (logoFiles.toAttachmentStore {}), "row"⟩ }

def secretTag : Tag := ⟨"custom", ["f", "_secret"], [], "%custom:f._secret%".toList, 0⟩
def slugTag : Tag := ⟨"native", ["tags", "slug"], [], "%native:tags.slug%".toList, 0⟩

def secretStore : PropertyStore := { records := [(.int 1, secretive "s")] }

/-- Both attributes of the object, the private one with a filter. -/
def secretText : List Char := "%custom:f.name%%custom:f._secret|upper%".toList

end Pass
end Render
end RecordTemplate
