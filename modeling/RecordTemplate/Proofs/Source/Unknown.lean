/-
  RecordTemplate.Proofs.Source.Unknown

  Fields that the check of a template calls unknown.  Each source is asked for its fields once,
  and a tag is complained about exactly when the source lists fields but not that of the tag
  (`Renderer.unknownField_mem_errors`).  Of the fields that have a value in a store these are the
  overlooked ones (`Renderer.validate_unknown_iff`).
-/

import Mathlib
import RecordTemplate.Proofs.Filter.Context
import RecordTemplate.Proofs.Number.Denoted
import RecordTemplate.Proofs.Source.Listing
import RecordTemplate.Proofs.Template.Grammar
import RecordTemplate.Render.Renderer

namespace RecordTemplate

open RecordTemplate.Template RecordTemplate.Text RecordTemplate.Number

/-! ## Messages -/

/-- The complaint about the field of a tag. -/
def unknownField (tag : Tag) : String :=
  "Unknown field '" ++ tag.field ++ "' in " ++ String.ofList tag.text

def missingSource (tag : Tag) : String :=
  "No data source for '" ++ tag.source ++ "' in " ++ String.ofList tag.text

theorem toList_unknownField (tag : Tag) : (unknownField tag).toList =
    "Unknown field '".toList ++ (tag.field.toList ++ '\'' :: (" in ".toList ++ tag.text)) := by
  have hquote : "' in ".toList = '\'' :: " in ".toList := rfl
  unfold unknownField
  simp only [String.toList_append, String.toList_ofList, hquote, List.append_assoc,
    List.cons_append]

theorem unknownField_ne_missingSource (tag tag' : Tag) : unknownField tag ≠ missingSource tag' := by
  unfold unknownField missingSource
  intro h
  have hfirst := congrArg (fun s => s.toList[0]?) h
  simp at hfirst

theorem unknownField_ne_fault (tag : Tag) (fault : MarkerFault) :
    unknownField tag ≠ fault.message := by
  unfold unknownField
  intro h
  have hfirst := congrArg (fun s => s.toList[0]?) h
  have hthird := congrArg (fun s => s.toList[2]?) h
  cases fault with
  | unclosed n =>
    unfold MarkerFault.message at hfirst
    have hdigits := (isNumeral_digits n).digits
    cases hn : digits n with
    | nil => simp [hn] at hfirst
    | cons c ds =>
      have hc : c = 'U' := by simpa [hn, eq_comm] using hfirst
      rw [hn, hc] at hdigits
      exact absurd (hdigits 'U' List.mem_cons_self) (by decide)
  | malformed c p =>
    unfold MarkerFault.message at hfirst
    simp at hfirst
  | _ =>
    unfold MarkerFault.message at hthird
    simp at hthird

namespace Renderer

variable {r : Renderer} {id : Value}

theorem unknownField_not_mem_filterErrors (tag tag' : Tag) :
    unknownField tag ∉ r.filterErrors tag' := by
  intro h
  unfold filterErrors unknownField at h
  obtain ⟨i, -, hi⟩ := List.mem_map.1 h
  have hletter := congrArg (fun s => s.toList[10]?) hi
  simp at hletter

/-! ## Tags of a template -/

/-- The tags of a template that a check looks at. -/
def checkedTags (r : Renderer) (template : List Char) : List Tag :=
  (Template.tagTexts r.keywords template).filterMap fun t => Tag.parse? r.keywords t 0

/-- The field of a tag has no quotes in its name. -/
theorem quote_not_mem_field {ks : Keywords} {t : List Char} {position : Int} {tag : Tag}
    (h : Tag.parse? ks t position = some tag) : '\'' ∉ tag.field.toList := by
  unfold Tag.parse? at h
  obtain ⟨reading, hfind, rfl⟩ := Option.map_eq_some_iff.1 h
  have hmem := List.mem_of_find?_eq_some hfind
  obtain ⟨u, hu⟩ := eq_percent_of_mem_tagForms hmem
  rw [hu, tagForms_percent] at hmem
  obtain ⟨keyword, -, hread⟩ := List.mem_filterMap.1 hmem
  obtain ⟨-, -, -, hpath, -⟩ := parts_of_withKeyword? hread
  intro hquote
  unfold Tag.field at hquote
  cases hsegments : Tag.segments reading.item.path with
  | nil => simp [Tag.ofForm, hsegments] at hquote
  | cons segment rest =>
    have hsegment : segment ∈ Tag.segments reading.item.path := hsegments ▸ List.mem_cons_self
    obtain ⟨part, hpart, rfl⟩ := List.mem_map.1 hsegment
    have hc : '\'' ∈ part := by simpa [Tag.ofForm, hsegments] using hquote
    have hchar := hpath _ (mem_of_mem_splitOn (List.mem_of_mem_filter hpart) hc)
    exact absurd hchar (by decide)

/-- Two tags of a template have one complaint only if they are one tag. -/
theorem eq_of_unknownField_eq {template : List Char} {tag tag' : Tag}
    (h : tag ∈ r.checkedTags template) (h' : tag' ∈ r.checkedTags template)
    (heq : unknownField tag = unknownField tag') : tag = tag' := by
  obtain ⟨t, -, ht⟩ := List.mem_filterMap.1 h
  obtain ⟨t', -, ht'⟩ := List.mem_filterMap.1 h'
  have hlist := congrArg String.toList heq
  rw [toList_unknownField, toList_unknownField] at hlist
  obtain ⟨-, hrest⟩ := eq_of_append_cons (quote_not_mem_field ht) (quote_not_mem_field ht')
    (List.append_cancel_left hlist)
  have htext : tag.text = tag'.text := List.append_cancel_left hrest
  -- a tag is read from its text
  have htag {s : List Char} {u : Tag} (hu : Tag.parse? r.keywords s 0 = some u) :
      u.text = trim s := by
    obtain ⟨reading, -, rfl⟩ := Option.map_eq_some_iff.1 hu
    rfl
  have hsame : Tag.parse? r.keywords t 0 = Tag.parse? r.keywords t' 0 := by
    unfold Tag.parse?
    rw [← htag ht, ← htag ht', htext]
  exact Option.some.inj (ht.symm.trans (hsame.trans ht'))

/-! ## Errors -/

/-- The source of a tag lists fields, but not the field of the tag. -/
def Unlisted (r : Renderer) (id : Value) (tag : Tag) : Prop :=
  tag.source ≠ r.rowKeyword ∧ ∃ source fields, r.sources.lookup tag.source = some source ∧
    source.knownFields id = .ok fields ∧ fields ≠ [] ∧
    ¬ (fields.map KnownField.name).any (·.isText tag.field)

/-- What has been noted of the sources is what they answer. -/
def Agrees (r : Renderer) (id : Value) (known : KnownNames) : Prop :=
  ∀ keyword names source, List.lookup keyword known = some names →
    r.sources.lookup keyword = some source →
      ∃ fields, source.knownFields id = .ok fields ∧ fields.map KnownField.name = names

theorem agrees_nil : Agrees r id [] := fun _ _ _ h => by cases h

/-- A source that is asked for the first time is noted. -/
theorem knownNames_spec {known known' : KnownNames} {keyword : String} {source : DataSource}
    {names : List Value} (hagree : Agrees r id known)
    (hsource : r.sources.lookup keyword = some source)
    (h : knownNames known keyword source id = .ok (names, known')) :
    Agrees r id known' ∧
      ∃ fields, source.knownFields id = .ok fields ∧ fields.map KnownField.name = names := by
  unfold knownNames at h
  split at h
  · next noted hnoted =>
    cases h
    exact ⟨hagree, hagree _ _ _ hnoted hsource⟩
  · cases hfields : source.knownFields id with
    | error e => simp [hfields, Except.map] at h
    | ok fields =>
      simp only [hfields, Except.map, Except.ok.injEq, Prod.mk.injEq] at h
      obtain ⟨rfl, rfl⟩ := h
      refine ⟨fun keyword' names' source' hlookup hsource' => ?_, fields, rfl, rfl⟩
      rw [List.lookup_cons] at hlookup
      split at hlookup
      · next hsame =>
        obtain rfl := beq_iff_eq.1 hsame
        cases hlookup
        obtain rfl : source = source' := Option.some.inj (hsource.symm.trans hsource')
        exact ⟨fields, hfields, rfl⟩
      · exact hagree _ _ _ hlookup hsource'

/-- One tag is complained about exactly if its field is not listed. -/
theorem fieldErrors_spec {known known' : KnownNames} {tag : Tag} {errors : List String}
    (hagree : Agrees r id known) (h : r.fieldErrors id known tag = .ok (errors, known')) :
    Agrees r id known' ∧
      ∀ other, unknownField other ∈ errors ↔ unknownField other = unknownField tag ∧
        Unlisted r id tag := by
  unfold fieldErrors at h
  split at h
  · next hrow =>
    cases h
    exact ⟨hagree, fun other => by simp [Unlisted, hrow]⟩
  · next hrow =>
    split at h
    · next hnone =>
      cases h
      refine ⟨hagree, fun other => ?_⟩
      have hne := unknownField_ne_missingSource other tag
      unfold missingSource at hne
      simp [Unlisted, hnone, hne]
    · next source hsource =>
      cases hnames : knownNames known tag.source source id with
      | error e => simp [hnames, bind, Except.bind] at h
      | ok answer =>
        obtain ⟨names, noted⟩ := answer
        obtain ⟨hnoted, fields, hfields, rfl⟩ := knownNames_spec hagree hsource hnames
        have hunlisted : Unlisted r id tag ↔ fields ≠ [] ∧
            ¬ (fields.map KnownField.name).any (·.isText tag.field) := by
          unfold Unlisted
          simp [hrow, hsource, hfields]
        simp only [hnames, bind, Except.bind] at h
        split at h
        · next hcomplaint =>
          cases h
          refine ⟨hnoted, fun other => ?_⟩
          have hlisted : Unlisted r id tag := hunlisted.2 (by simpa using hcomplaint)
          rw [and_iff_left hlisted]
          exact List.mem_singleton
        · next hcomplaint =>
          cases h
          refine ⟨hnoted, fun other => ?_⟩
          have hlisted : ¬ Unlisted r id tag := fun hu => hcomplaint (by simpa using hunlisted.1 hu)
          simp [hlisted]

/-- The complaints about a list of tags are those about each of them. -/
theorem tagErrors_spec {known : KnownNames} {tags : List Tag} {errors : List String}
    (hagree : Agrees r id known) (h : r.tagErrors id known tags = .ok errors) (other : Tag) :
    unknownField other ∈ errors ↔
      ∃ tag ∈ tags, unknownField other = unknownField tag ∧ Unlisted r id tag := by
  induction tags generalizing known errors with
  | nil =>
    cases h
    simp
  | cons tag tags ih =>
    unfold tagErrors at h
    cases hfield : r.fieldErrors id known tag with
    | error e => simp [hfield, bind, Except.bind] at h
    | ok answer =>
      obtain ⟨fieldErrors, noted⟩ := answer
      obtain ⟨hnoted, hcomplaint⟩ := fieldErrors_spec hagree hfield
      cases hrest : r.tagErrors id noted tags with
      | error e => simp [hfield, hrest, bind, Except.bind] at h
      | ok rest =>
        simp only [hfield, hrest, bind, Except.bind, pure, Except.pure, Except.ok.injEq] at h
        subst h
        rw [List.mem_append, List.mem_append, hcomplaint, ih hnoted hrest,
          or_iff_right (unknownField_not_mem_filterErrors other tag)]
        simp

theorem validate_text (r : Renderer) (id : Value) (template : String) :
    r.validate (.text template) id =
      (r.tagErrors id [] (r.checkedTags template.toList)).bind fun errors =>
        .ok { Report.ofTemplate r.keywords template.toList with
          errors := (Report.ofTemplate r.keywords template.toList).errors ++ errors } :=
  rfl

/-- A check complains about the field of a tag exactly if the field is not listed. -/
theorem unknownField_mem_errors {template : String} {report : Report} {tag : Tag}
    (h : r.validate (.text template) id = .ok report)
    (htag : tag ∈ r.checkedTags template.toList) :
    unknownField tag ∈ report.errors ↔ Unlisted r id tag := by
  rw [validate_text] at h
  cases herrors : r.tagErrors id [] (r.checkedTags template.toList) with
  | error e => simp [herrors, Except.bind] at h
  | ok errors =>
    simp only [herrors, Except.bind, Except.ok.injEq] at h
    subst h
    have hlint : unknownField tag ∉ (Report.ofTemplate r.keywords template.toList).errors := by
      intro hmem
      obtain ⟨fault, -, hfault⟩ := List.mem_map.1 hmem
      exact unknownField_ne_fault tag fault hfault.symm
    rw [List.mem_append, or_iff_right hlint, tagErrors_spec agrees_nil herrors]
    constructor
    · rintro ⟨tag', htag', heq, hunlisted⟩
      rwa [eq_of_unknownField_eq htag htag' heq]
    · exact fun hunlisted => ⟨tag, htag, rfl, hunlisted⟩

/-- A check returns if every source lists its fields. -/
theorem validate_ok (h : ∀ keyword source, r.sources.lookup keyword = some source →
    ∃ fields, source.knownFields id = .ok fields) (template : String) :
    ∃ report, r.validate (.text template) id = .ok report := by
  have hnames : ∀ known keyword source, r.sources.lookup keyword = some source →
      ∃ answer, knownNames known keyword source id = .ok answer := by
    intro known keyword source hsource
    obtain ⟨fields, hfields⟩ := h keyword source hsource
    unfold knownNames
    split
    · exact ⟨_, rfl⟩
    · rw [hfields]
      exact ⟨_, rfl⟩
  have hfield : ∀ known tag, ∃ answer, r.fieldErrors id known tag = .ok answer := by
    intro known tag
    unfold fieldErrors
    split
    · exact ⟨_, rfl⟩
    · split
      · exact ⟨_, rfl⟩
      · next source hsource =>
        obtain ⟨answer, hanswer⟩ := hnames known tag.source source hsource
        simp only [hanswer, bind, Except.bind]
        split <;> exact ⟨_, rfl⟩
  have htags : ∀ known tags, ∃ errors, r.tagErrors id known tags = .ok errors := by
    intro known tags
    induction tags generalizing known with
    | nil => exact ⟨_, rfl⟩
    | cons tag tags ih =>
      obtain ⟨answer, hanswer⟩ := hfield known tag
      obtain ⟨errors, herrors⟩ := ih answer.2
      unfold tagErrors
      simp only [hanswer, herrors, bind, Except.bind]
      exact ⟨_, rfl⟩
  obtain ⟨errors, herrors⟩ := htags [] (r.checkedTags template.toList)
  have hvalidate := validate_text r id template
  rw [herrors] at hvalidate
  exact ⟨_, hvalidate⟩

/-! ## Stores -/

section Stores

variable {stores : List (String × Store)}

theorem lookup_toDataSource (keyword : String) :
    (stores.map fun e => (e.1, e.2.toDataSource)).lookup keyword =
      (stores.lookup keyword).map Store.toDataSource := by
  induction stores with
  | nil => rfl
  | cons e l ih =>
    rw [List.map_cons, List.lookup_cons, List.lookup_cons, ih]
    cases keyword == e.1 <;> rfl

/-- A field with a value has a listing beside it, which leaves out the overlooked fields. -/
theorem exists_listing_of_value {store : Store} {field : String} {v : Value}
    (hwell : store.WellFormed) (hv : store.toDataSource.value field id = .ok v)
    (hnull : v.isNull = false) : ∃ fields, store.toDataSource.knownFields id = .ok fields ∧
      ((fields.map KnownField.name).any (·.isText field) ↔ ¬ store.Overlooks field id) ∧
      (.text field ∈ fields.map KnownField.name ↔ ¬ store.Overlooks field id) := by
  obtain ⟨fields, hfields⟩ := Store.exists_listing hwell (Store.keyFault?_of_value hv)
  obtain ⟨names, hnames, -, hvalues⟩ := Store.listing hwell hfields
  refine ⟨fields, hfields, ?_, ?_⟩
  · rw [hnames, any_isText, List.contains_iff_mem, hvalues field v hv hnull]
  · rw [hnames, ← hvalues field v hv hnull]
    simp

/-- Of the fields with a value those are not listed that are overlooked beside another field. -/
theorem unlisted_iff_overlooks {store : Store} {tag : Tag} {v : Value} (hwell : store.WellFormed)
    (hsource : r.sources.lookup tag.source = some store.toDataSource)
    (hv : store.toDataSource.value tag.field id = .ok v) (hnull : v.isNull = false) :
    Unlisted r id tag ↔ tag.source ≠ r.rowKeyword ∧
      store.Overlooks tag.field id ∧ store.toDataSource.knownFields id ≠ .ok [] := by
  obtain ⟨fields, hfields, hiff, -⟩ := exists_listing_of_value hwell hv hnull
  have hoverlooks := (not_congr hiff).trans Classical.not_not
  constructor
  · rintro ⟨hrow, source, fields', hsource', hfields', hne, hany⟩
    obtain rfl : store.toDataSource = source := Option.some.inj (hsource.symm.trans hsource')
    obtain rfl : fields = fields' := Except.ok.inj (hfields.symm.trans hfields')
    refine ⟨hrow, hoverlooks.1 hany, fun hnone => hne ?_⟩
    exact Except.ok.inj (hfields.symm.trans hnone)
  · rintro ⟨hrow, hover, hne⟩
    exact ⟨hrow, _, fields, hsource, hfields, fun hnil => hne (hnil ▸ hfields),
      hoverlooks.2 hover⟩

/-- The stores of a renderer list no name twice, and of the fields with a value those that they do
    not overlook.  A check returns for every record that can be asked for, and it calls a field
    with a value unknown exactly if the store overlooks it and lists another one. -/
theorem validate_unknown_iff (hsources : r.sources = stores.map fun e => (e.1, e.2.toDataSource))
    (hwell : ∀ e ∈ stores, e.2.WellFormed) (id : Value) :
    (∀ e ∈ stores, ∀ fields, e.2.toDataSource.knownFields id = .ok fields →
      (fields.map KnownField.name).Nodup) ∧
    (∀ e ∈ stores, ∀ field v, e.2.toDataSource.value field id = .ok v → v.isNull = false →
      ∃ fields, e.2.toDataSource.knownFields id = .ok fields ∧
        (.text field ∈ fields.map KnownField.name ↔ ¬ e.2.Overlooks field id)) ∧
    ((∀ e ∈ stores, (recordOr e.2.defaultId id).keyFault? = none) → ∀ template,
      ∃ report, r.validate (.text template) id = .ok report) ∧
    ∀ template report, r.validate (.text template) id = .ok report →
      ∀ tag ∈ r.checkedTags template.toList, ∀ store v, stores.lookup tag.source = some store →
        store.toDataSource.value tag.field id = .ok v → v.isNull = false →
          (unknownField tag ∈ report.errors ↔ tag.source ≠ r.rowKeyword ∧
            store.Overlooks tag.field id ∧ store.toDataSource.knownFields id ≠ .ok []) := by
  refine ⟨fun e he fields hfields => ?_, fun e he field v hv hnull => ?_, fun hkeys template => ?_,
    fun template report hreport tag htag store v hstore hv hnull => ?_⟩
  · obtain ⟨names, hnames, hnodup, -⟩ := Store.listing (hwell e he) hfields
    rw [hnames]
    exact hnodup.map fun _ _ => Value.text.inj
  · obtain ⟨fields, hfields, -, hiff⟩ := exists_listing_of_value (hwell e he) hv hnull
    exact ⟨fields, hfields, hiff⟩
  · refine validate_ok (fun keyword source hsource => ?_) template
    rw [hsources, lookup_toDataSource] at hsource
    obtain ⟨store, hstore, rfl⟩ := Option.map_eq_some_iff.1 hsource
    have he := mem_of_lookup hstore
    exact Store.exists_listing (hwell _ he) (hkeys _ he)
  · have hsource : r.sources.lookup tag.source = some store.toDataSource := by
      rw [hsources, lookup_toDataSource, hstore]
      rfl
    rw [unknownField_mem_errors hreport htag]
    exact unlisted_iff_overlooks (hwell _ (mem_of_lookup hstore)) hsource hv hnull

end Stores

/-! ## Overlooked fields -/

/-- A mapping with a private key next to a public one. -/
def privateKey : PropertyStore where
  records := [(.int 1, .mapping [("_x", .text "1"), ("a", .text "2")])]

/-- A record that is kept under null, next to a declared field. -/
def nullRecord : FieldStore where
  records := [(.null, .mapping [("a", .text "1")])]
  declared := [("b", .mapping [])]

theorem wellFormed_privateKey : privateKey.WellFormed where
  labels := List.nodup_nil
  computed := List.nodup_nil
  records e he := by
    obtain rfl := List.mem_singleton.1 he
    exact ⟨_, rfl, by decide⟩

theorem wellFormed_nullRecord : nullRecord.WellFormed where
  nodup := by decide
  declared e he := by
    obtain rfl := List.mem_singleton.1 he
    exact ⟨_, rfl⟩
  records e he := by
    obtain rfl := List.mem_singleton.1 he
    exact ⟨_, rfl, by decide⟩

/-- The tag `%native:_x%`. -/
def privateTag : Tag := ⟨"native", ["_x"], [], "%native:_x%".toList, 0⟩

def privateRenderer : Renderer :=
  (ofSettings .standard "" none ⟨⟨2024, 3, 1, by decide⟩, .midnight, none⟩).registerSource "native"
    privateKey.toDataSource

/-- The private key is read, and the check calls it unknown. -/
theorem validate_unknown_iff_private :
    privateRenderer.sources = [("native", privateKey.toDataSource)] ∧ privateKey.WellFormed ∧
      privateKey.value "_x" (.int 1) = .ok (.text "1") ∧
      ∃ report, privateRenderer.validate (.text "%native:_x%") (.int 1) = .ok report ∧
        "Unknown field '_x' in %native:_x%" ∈ report.errors := by
  obtain ⟨-, -, hreturns, hunknown⟩ := @validate_unknown_iff privateRenderer
    [("native", .native privateKey)] rfl
    (fun e he => by rw [List.mem_singleton.1 he]; exact wellFormed_privateKey) (.int 1)
  obtain ⟨report, hreport⟩ := hreturns
    (fun e he => by rw [List.mem_singleton.1 he]; rfl) "%native:_x%"
  have htags : privateRenderer.checkedTags "%native:_x%".toList = [privateTag] := by
    cbv
  have htag : privateTag ∈ privateRenderer.checkedTags "%native:_x%".toList := by
    rw [htags]
    exact List.mem_singleton_self _
  refine ⟨rfl, wellFormed_privateKey, rfl, report, hreport, ?_⟩
  refine (hunknown _ report hreport privateTag htag (.native privateKey) _ rfl rfl rfl).2
    ⟨?_, ?_, ?_⟩
  · decide
  · exact ⟨by decide, ⟨_, rfl⟩, List.not_mem_nil, List.not_mem_nil⟩
  · intro h
    cases h

/-- Not every field with a value is listed where other fields are, in either kind of store. -/
theorem not_forall_listed :
    (¬ ∀ (s : PropertyStore) (id v : Value) (field : String) (fields : List KnownField),
      s.WellFormed → s.value field id = .ok v → v.isNull = false → s.knownFields id = .ok fields →
        fields = [] ∨ .text field ∈ fields.map KnownField.name) ∧
    ¬ ∀ (s : FieldStore) (id v : Value) (field : String) (fields : List KnownField),
      s.WellFormed → s.value field id = .ok v → v.isNull = false → s.knownFields id = .ok fields →
        fields = [] ∨ .text field ∈ fields.map KnownField.name := by
  constructor
  · intro h
    have hlisted := h privateKey (.int 1) _ "_x" [⟨.text "a", .text "a"⟩] wellFormed_privateKey
      rfl rfl rfl
    simp at hlisted
  · intro h
    have hlisted := h nullRecord .null _ "a" [⟨.text "b", .text "b"⟩] wellFormed_nullRecord
      rfl rfl rfl
    simp at hlisted

end Renderer
end RecordTemplate
