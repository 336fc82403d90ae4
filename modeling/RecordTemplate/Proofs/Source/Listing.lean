/-
  RecordTemplate.Proofs.Source.Listing

  The fields that a store lists and those it has values for.  A listing has no name twice, and a
  field with a value is in it unless the store overlooks the field (`Store.listing`): a store of
  custom fields does not list a record that is kept under null, and a store of native properties
  leaves out the private keys of a mapping although it reads them.
-/

import Mathlib.Data.List.Nodup
import Mathlib.Tactic.Common
import RecordTemplate.Source.DataSource

namespace RecordTemplate

/-! ## Lists in which nothing fails -/

section Traversals

variable {α β γ : Type} {l : List α}

theorem mapM_ok {f : α → Except Failure β} {g : β → γ} {k : α → γ}
    (h : ∀ a ∈ l, ∃ b, f a = .ok b ∧ g b = k a) :
    ∃ bs, l.mapM f = .ok bs ∧ bs.map g = l.map k := by
  induction l with
  | nil => exact ⟨[], rfl, rfl⟩
  | cons a l ih =>
    obtain ⟨b, hb, hg⟩ := h a List.mem_cons_self
    obtain ⟨bs, hbs, hmap⟩ := ih fun c hc => h c (List.mem_cons_of_mem _ hc)
    refine ⟨b :: bs, ?_, ?_⟩
    · rw [List.mapM_cons, hb, hbs]
      rfl
    · rw [List.map_cons, List.map_cons, hg, hmap]

theorem filterM_ok {f : α → Except Failure Bool} {p : α → Bool}
    (h : ∀ a ∈ l, f a = .ok (p a)) : l.filterM f = .ok (l.filter p) := by
  have haux : ∀ kept, List.filterAuxM f l kept = .ok ((l.filter p).reverse ++ kept) := by
    induction l with
    | nil => exact fun kept => rfl
    | cons a l ih =>
      intro kept
      have hstep : List.filterAuxM f (a :: l) kept =
          (f a).bind fun b => List.filterAuxM f l (cond b (a :: kept) kept) := rfl
      rw [hstep, h a List.mem_cons_self, Except.bind,
        ih fun c hc => h c (List.mem_cons_of_mem _ hc)]
      cases hp : p a <;> simp [hp]
  have hfilter : l.filterM f = (List.filterAuxM f l []).bind fun kept => .ok kept.reverse := rfl
  rw [hfilter, haux, Except.bind, List.append_nil, List.reverse_reverse]

end Traversals

/-! ## Names -/

theorem Entries.mem_names_of_value {es : Entries} {name : String}
    (h : (Entries.value es name).isNull = false) : name ∈ Entries.names es := by
  unfold Entries.value Entries.value? at h
  cases hlookup : List.lookup name es with
  | none => simp [hlookup, Value.isNull] at h
  | some v =>
    obtain ⟨before, after, rfl, -⟩ := List.lookup_eq_some_iff.1 hlookup
    simp [Entries.names]

theorem any_isText {names : List String} {name : String} :
    ((names.map Value.text).any fun v => v.isText name) = names.contains name := by
  induction names with
  | nil => rfl
  | cons n names ih =>
    rw [List.map_cons, List.any_cons, List.contains_cons, ih, BEq.comm]
    rfl

theorem Keyed.mem_of_find {α : Type} {items : Keyed α} {key : Value} {a : α}
    (h : Keyed.find items key = .ok (some a)) : ∃ e ∈ items, e.2 = a := by
  unfold Keyed.find Value.checkKey Keyed.get? at h
  cases hfault : key.keyFault? with
  | some e => simp [hfault, bind, Except.bind] at h
  | none =>
    simp only [hfault, bind, Except.bind, pure, Except.pure, Except.ok.injEq,
      Option.map_eq_some_iff] at h
    obtain ⟨e, he, rfl⟩ := h
    exact ⟨e, List.mem_of_find?_eq_some he, rfl⟩

/-- An item, or that there is none, is found under every value that can be a key. -/
theorem Keyed.find_ok_iff {α : Type} {items : Keyed α} {key : Value} :
    (∃ found, Keyed.find items key = .ok found) ↔ key.keyFault? = none := by
  unfold Keyed.find Value.checkKey
  cases key.keyFault? <;> simp [bind, Except.bind, pure, Except.pure]

theorem exists_map_ok_iff {ε α β : Type} {x : Except ε α} {f : α → β} :
    (∃ b, x.map f = .ok b) ↔ ∃ a, x = .ok a := by
  cases x <;> simp [Except.map]

/-! ## Custom fields -/

namespace FieldStore

/-- Fields are declared once and with mappings, and records are mappings. -/
structure WellFormed (s : FieldStore) : Prop where
  nodup : (Entries.names s.declared).Nodup
  declared : ∀ e ∈ s.declared, ∃ es, e.2 = .mapping es
  records : ∀ e ∈ s.records, ∃ es, e.2 = .mapping es ∧ (Entries.names es).Nodup

/-- The store does not list a field although it may have a value: neither a record nor a default
    record is named, and the field is not declared. -/
def Overlooks (s : FieldStore) (field : String) (id : Value) : Prop :=
  (recordOr s.defaultId id).isNull = true ∧ field ∉ Entries.names s.declared

variable {s : FieldStore} {id v : Value} {field : String} {es : Entries}

/-- The names that are listed for a record: the declared ones, and of the record the others. -/
def listedNames (s : FieldStore) (id : Value) (es : Entries) : List String :=
  Entries.names s.declared ++
    if (recordOr s.defaultId id).isNull then []
    else (Entries.names es).filter fun name => !(Entries.names s.declared).contains name

theorem record_ok_iff :
    (∃ row, s.record id = .ok row) ↔ (recordOr s.defaultId id).keyFault? = none :=
  exists_map_ok_iff.trans Keyed.find_ok_iff

/-- Whatever is found for a record is a mapping. -/
theorem record_eq_mapping (h : s.WellFormed) {row : Value} (hrow : s.record id = .ok row) :
    ∃ es, row = .mapping es ∧ (Entries.names es).Nodup := by
  unfold record at hrow
  cases hfind : Keyed.find s.records (recordOr s.defaultId id) with
  | error e => simp [hfind, Except.map] at hrow
  | ok found =>
    simp only [hfind, Except.map, Except.ok.injEq] at hrow
    subst hrow
    cases found with
    | none => exact ⟨[], rfl, List.nodup_nil⟩
    | some r =>
      obtain ⟨e, he, rfl⟩ := Keyed.mem_of_find hfind
      dsimp only
      split
      · exact h.records e he
      · exact ⟨[], rfl, List.nodup_nil⟩

/-- The declared fields are listed under their names. -/
theorem declaredFields_ok (h : s.WellFormed) : ∃ fields,
    s.declared.mapM declaredField = .ok fields ∧
      fields.map KnownField.name = (Entries.names s.declared).map .text := by
  have hnames : (Entries.names s.declared).map Value.text =
      s.declared.map fun e => Value.text e.1 := List.map_map
  rw [hnames]
  refine mapM_ok fun e he => ?_
  obtain ⟨es, hes⟩ := h.declared e he
  unfold declaredField
  rw [hes]
  exact ⟨_, rfl, rfl⟩

/-- Of a record those names are listed that are not declared. -/
theorem otherFields_ok (s : FieldStore) (es : Entries) : ∃ fields,
    s.otherFields (.mapping es) = .ok fields ∧
      fields.map KnownField.name =
        ((Entries.names es).filter fun name => !(Entries.names s.declared).contains name).map
          .text := by
  have hdeclared : ∀ name ∈ (Entries.names es).map Value.text,
      ((s.isDeclared name).map (!·)) =
        .ok !(s.declared.any fun field => name.isText field.1) := by
    intro name hname
    obtain ⟨n, -, rfl⟩ := List.mem_map.1 hname
    rfl
  have hnames : ∀ name, (s.declared.any fun field => (Value.text name).isText field.1) =
      (Entries.names s.declared).contains name := by
    intro name
    induction s.declared with
    | nil => rfl
    | cons e l ih =>
      rw [List.any_cons, ih]
      rfl
  unfold otherFields
  simp only [Value.elements, bind, Except.bind, filterM_ok hdeclared]
  refine ⟨_, rfl, ?_⟩
  rw [List.map_map, List.filter_map]
  simp only [Function.comp_def, hnames, List.map_map]

/-- The listing of a record that is found. -/
theorem knownFields_ok (h : s.WellFormed) (hrow : s.record id = .ok (.mapping es)) :
    ∃ fields, s.knownFields id = .ok fields ∧
      fields.map KnownField.name = (s.listedNames id es).map .text := by
  obtain ⟨declared, hdeclared, hnames⟩ := declaredFields_ok h
  obtain ⟨others, hothers, hnames'⟩ := otherFields_ok s es
  unfold knownFields listedNames
  split
  · simp only [hdeclared, pure, Except.pure, bind, Except.bind]
    exact ⟨_, rfl, by simp [hnames]⟩
  · simp only [hrow, hothers, hdeclared, pure, Except.pure, bind, Except.bind]
    exact ⟨_, rfl, by simp [hnames, hnames']⟩

theorem nodup_listedNames (h : s.WellFormed) (hes : (Entries.names es).Nodup) :
    (s.listedNames id es).Nodup := by
  unfold listedNames
  split
  · rw [List.append_nil]
    exact h.nodup
  · refine h.nodup.append (hes.filter _) fun name hname hother => ?_
    simp [hname] at hother

/-- A record is found wherever there is a listing. -/
theorem record_of_knownFields {fields : List KnownField} (hfields : s.knownFields id = .ok fields) :
    ∃ row, s.record id = .ok row := by
  unfold knownFields at hfields
  split at hfields
  · next hnull =>
    -- null is a key
    unfold record Keyed.find
    cases hkey : recordOr s.defaultId id <;> simp [hkey, Value.isNull] at hnull
    exact ⟨_, rfl⟩
  · cases hrow : s.record id with
    | ok row => exact ⟨row, rfl⟩
    | error e => simp [hrow, bind, Except.bind] at hfields

/-- A field with a value is listed unless it is overlooked. -/
theorem mem_listedNames (hrow : s.record id = .ok (.mapping es)) (hv : s.value field id = .ok v)
    (hnull : v.isNull = false) : field ∈ s.listedNames id es ↔ ¬ s.Overlooks field id := by
  have hmem : field ∈ Entries.names es := by
    unfold value at hv
    simp only [hrow, bind, Except.bind, pure, Except.pure, Except.ok.injEq] at hv
    rw [← hv] at hnull
    exact Entries.mem_names_of_value hnull
  unfold listedNames Overlooks
  by_cases hkey : (recordOr s.defaultId id).isNull = true
  · simp [hkey]
  · simp [hkey, hmem, em]

end FieldStore

/-! ## Native properties -/

namespace Value

/-- The entries of a mapping, or the attributes of an object. -/
def fields? : Value → Option Entries
  | mapping es => some es
  | v => v.attributes?

/-- What is no mapping has the attributes that it was given, and no others. -/
theorem attribute?_of_fields? {v : Value} {es : Entries} (h : v.attributes? = some es)
    (name : String) : v.attribute? name = Entries.value? es name := by
  have hparts : v.parts = es ∧ v.operations = [] := by
    cases v <;> simp_all [attributes?, parts, operations]
  unfold attribute?
  rw [hparts.1, hparts.2]
  cases Entries.value? es name <;> rfl

end Value

namespace PropertyStore

/-- Labels and computed fields are given once, and records are mappings or objects. -/
structure WellFormed (s : PropertyStore) : Prop where
  labels : (Entries.names s.labels).Nodup
  computed : (s.computed.map (·.1)).Nodup
  records : ∀ e ∈ s.records, ∃ es, e.2.fields? = some es ∧ (Entries.names es).Nodup

/-- The store does not list a field although it may have a value: the field is a private key of a
    mapping, and neither labelled nor computed. -/
def Overlooks (s : PropertyStore) (field : String) (id : Value) : Prop :=
  isPrivateName field = true ∧ (∃ es, s.record id = .ok (.mapping es)) ∧
    field ∉ Entries.names s.labels ∧ field ∉ s.computed.map (·.1)

variable {s : PropertyStore} {id row v : Value} {field : String}

/-- The names that are listed for a record. -/
def listedNames (s : PropertyStore) (row : Value) : List String :=
  addNames (addNames (Entries.names s.labels) (s.computed.map (·.1))) (propertyNames row)

theorem mem_addNames {names others : List String} {name : String} :
    name ∈ addNames names others ↔ name ∈ names ∨ name ∈ others := by
  unfold addNames
  by_cases hname : name ∈ names <;> simp [hname]

theorem nodup_addNames {names others : List String} (h : names.Nodup) (h' : others.Nodup) :
    (addNames names others).Nodup := by
  unfold addNames
  refine h.append (h'.filter _) fun name hname hother => ?_
  simp [hname] at hother

theorem record_ok_iff :
    (∃ row, s.record id = .ok row) ↔ (recordOr s.defaultId id).keyFault? = none :=
  exists_map_ok_iff.trans Keyed.find_ok_iff

/-- Whatever is found for a record is null or has fields. -/
theorem record_fields (h : s.WellFormed) (hrow : s.record id = .ok row) :
    row = .null ∨ ∃ es, row.fields? = some es ∧ (Entries.names es).Nodup := by
  unfold record at hrow
  cases hfind : Keyed.find s.records (recordOr s.defaultId id) with
  | error e => simp [hfind, Except.map] at hrow
  | ok found =>
    simp only [hfind, Except.map, Except.ok.injEq] at hrow
    subst hrow
    cases found with
    | none => exact .inl rfl
    | some r =>
      obtain ⟨e, he, rfl⟩ := Keyed.mem_of_find hfind
      exact .inr (h.records e he)

theorem propertyNames_of_fields {es : Entries} (hrow : row.fields? = some es) :
    propertyNames row = (Entries.names es).filter fun name => !isPrivateName name := by
  unfold propertyNames
  cases row <;> simp_all [Value.fields?, Value.attributes?]

theorem nodup_listedNames (h : s.WellFormed) (hrow : s.record id = .ok row) :
    (s.listedNames row).Nodup := by
  have hnames : (propertyNames row).Nodup := by
    obtain rfl | ⟨es, hes, hnodup⟩ := record_fields h hrow
    · exact List.nodup_nil
    · rw [propertyNames_of_fields hes]
      exact hnodup.filter _
  exact nodup_addNames (nodup_addNames h.labels h.computed) hnames

theorem knownFields_ok (hrow : s.record id = .ok row) :
    ∃ fields, s.knownFields id = .ok fields ∧
      fields.map KnownField.name = (s.listedNames row).map .text := by
  unfold knownFields
  simp only [hrow, bind, Except.bind, pure, Except.pure]
  exact ⟨_, rfl, by rw [List.map_map]; rfl⟩

/-- A record is found wherever there is a listing. -/
theorem record_of_knownFields {fields : List KnownField} (hfields : s.knownFields id = .ok fields) :
    ∃ row, s.record id = .ok row := by
  unfold knownFields at hfields
  cases hrow : s.record id with
  | ok row => exact ⟨row, rfl⟩
  | error e => simp [hrow, bind, Except.bind] at hfields

/-- A property with a value is a field of the record, and public unless the record is a mapping. -/
theorem mem_names_of_property {es : Entries} (hrow : row.fields? = some es)
    (hnull : (property row field).isNull = false) :
    field ∈ Entries.names es ∧ (isPrivateName field = true → row = .mapping es) := by
  unfold property at hnull
  split at hnull
  · next es' =>
    obtain rfl : es' = es := Option.some.inj hrow
    exact ⟨Entries.mem_names_of_value hnull, fun _ => rfl⟩
  · next hmapping =>
    have hattributes : row.attributes? = some es := by
      rw [← hrow]
      unfold Value.fields?
      split
      · next es' => exact absurd rfl (hmapping es')
      · rfl
    split at hnull
    · simp [Value.isNull] at hnull
    · next hpublic =>
      rw [Value.attribute?_of_fields? hattributes] at hnull
      exact ⟨Entries.mem_names_of_value hnull, fun hprivate => absurd hprivate hpublic⟩

/-- A field with a value is listed unless it is overlooked. -/
theorem mem_listedNames (h : s.WellFormed) (hrow : s.record id = .ok row)
    (hv : s.value field id = .ok v) (hnull : v.isNull = false) :
    field ∈ s.listedNames row ↔ ¬ s.Overlooks field id := by
  have hmem : field ∈ s.listedNames row ↔ (field ∈ Entries.names s.labels ∨
      field ∈ s.computed.map (·.1)) ∨ field ∈ propertyNames row := by
    unfold listedNames
    rw [mem_addNames, mem_addNames]
  have hlisted : field ∈ s.computed.map (·.1) ∨ ∃ es, row.fields? = some es ∧
      field ∈ Entries.names es ∧ (isPrivateName field = true → row = .mapping es) := by
    unfold value at hv
    simp only [hrow, bind, Except.bind] at hv
    split at hv
    · cases hv
      simp [Value.isNull] at hnull
    · next hrecord =>
      split at hv
      · next compute hcompute =>
        obtain ⟨before, after, hcomputed, -⟩ := List.lookup_eq_some_iff.1 hcompute
        exact .inl (by simp [hcomputed])
      · cases hv
        obtain rfl | ⟨es, hes, -⟩ := record_fields h hrow
        · exact absurd rfl hrecord
        · exact .inr ⟨es, hes, mem_names_of_property hes hnull⟩
  rw [hmem]
  unfold Overlooks
  rw [hrow]
  by_cases hnamed : field ∈ Entries.names s.labels ∨ field ∈ s.computed.map (·.1)
  · exact iff_of_true (.inl hnamed) fun h => hnamed.elim h.2.2.1 h.2.2.2
  · -- only the record itself can have the value
    obtain ⟨es, hes, hfield, hmapping⟩ := hlisted.resolve_left fun h => hnamed (.inr h)
    rw [or_iff_right hnamed, propertyNames_of_fields hes]
    rw [not_or] at hnamed
    simp only [List.mem_filter, hfield, true_and, Bool.not_eq_true', ← Bool.not_eq_true]
    refine not_congr ⟨fun hprivate => ?_, And.left⟩
    exact ⟨hprivate, ⟨es, congrArg Except.ok (hmapping hprivate)⟩, hnamed⟩

end PropertyStore

/-! ## Stores -/

/-- A store of either kind. -/
inductive Store where
  | custom (s : FieldStore)
  | native (s : PropertyStore)

namespace Store

def toDataSource : Store → DataSource
  | custom s => s.toDataSource
  | native s => s.toDataSource

def defaultId : Store → Value
  | custom s => s.defaultId
  | native s => s.defaultId

/-- Records and declarations are what the store expects, and no name is given twice. -/
def WellFormed : Store → Prop
  | custom s => s.WellFormed
  | native s => s.WellFormed

/-- The store does not list a field although it may have a value. -/
def Overlooks : Store → String → Value → Prop
  | custom s => s.Overlooks
  | native s => s.Overlooks

variable {s : Store} {id : Value}

/-- A listing has texts for names, none of them twice, and of the fields with a value exactly those
    that are not overlooked. -/
theorem listing (h : s.WellFormed) {fields : List KnownField}
    (hfields : s.toDataSource.knownFields id = .ok fields) :
    ∃ names : List String, fields.map KnownField.name = names.map .text ∧ names.Nodup ∧
      ∀ field v, s.toDataSource.value field id = .ok v → v.isNull = false →
        (field ∈ names ↔ ¬ s.Overlooks field id) := by
  cases s with
  | custom s =>
    obtain ⟨row, hrow⟩ := FieldStore.record_of_knownFields hfields
    obtain ⟨es, rfl, hes⟩ := FieldStore.record_eq_mapping h hrow
    obtain ⟨fields', hfields', hnames⟩ := FieldStore.knownFields_ok h hrow
    obtain rfl : fields = fields' := Except.ok.inj (hfields.symm.trans hfields')
    exact ⟨_, hnames, FieldStore.nodup_listedNames h hes,
      fun field v hv hnull => FieldStore.mem_listedNames hrow hv hnull⟩
  | native s =>
    obtain ⟨row, hrow⟩ := PropertyStore.record_of_knownFields hfields
    obtain ⟨fields', hfields', hnames⟩ := PropertyStore.knownFields_ok hrow
    obtain rfl : fields = fields' := Except.ok.inj (hfields.symm.trans hfields')
    exact ⟨_, hnames, PropertyStore.nodup_listedNames h hrow,
      fun field v hv hnull => PropertyStore.mem_listedNames h hrow hv hnull⟩

/-- Every record that can be asked for has a listing. -/
theorem exists_listing (h : s.WellFormed) (hkey : (recordOr s.defaultId id).keyFault? = none) :
    ∃ fields, s.toDataSource.knownFields id = .ok fields := by
  cases s with
  | custom s =>
    obtain ⟨row, hrow⟩ := FieldStore.record_ok_iff.2 hkey
    obtain ⟨es, rfl, -⟩ := FieldStore.record_eq_mapping h hrow
    obtain ⟨fields, hfields, -⟩ := FieldStore.knownFields_ok h hrow
    exact ⟨fields, hfields⟩
  | native s =>
    obtain ⟨row, hrow⟩ := PropertyStore.record_ok_iff.2 hkey
    obtain ⟨fields, hfields, -⟩ := PropertyStore.knownFields_ok hrow
    exact ⟨fields, hfields⟩

/-- A record with a value can be asked for. -/
theorem keyFault?_of_value {field : String} {v : Value}
    (hv : s.toDataSource.value field id = .ok v) : (recordOr s.defaultId id).keyFault? = none := by
  cases s with
  | custom s =>
    refine FieldStore.record_ok_iff.1 ?_
    change s.value field id = .ok v at hv
    unfold FieldStore.value at hv
    cases hrow : s.record id with
    | ok row => exact ⟨row, rfl⟩
    | error e => simp [hrow, bind, Except.bind] at hv
  | native s =>
    refine PropertyStore.record_ok_iff.1 ?_
    change s.value field id = .ok v at hv
    unfold PropertyStore.value at hv
    cases hrow : s.record id with
    | ok row => exact ⟨row, rfl⟩
    | error e => simp [hrow, bind, Except.bind] at hv

end Store
end RecordTemplate
