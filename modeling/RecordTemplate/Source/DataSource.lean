/-
  RecordTemplate.Source.DataSource

  Where the values of fields come from.  A source answers for one field of one record, and may
  fail; a record identifier of null stands for the default record of the source.
-/

import RecordTemplate.Value.Attribute
import RecordTemplate.Value.Key
import RecordTemplate.Value.Text

namespace RecordTemplate

/-- A field that a source knows, as the editor lists it. -/
structure KnownField where
  name : Value
  label : Value

/-- A source of values. -/
structure DataSource where
  name : String
  /-- The value of a field of a record, null if there is none. -/
  value : String → Value → Except Failure Value
  /-- What is known about a field. -/
  metadata : String → Value → Except Failure (Option Entries)
  /-- The fields of a record. -/
  knownFields : Value → Except Failure (List KnownField)

/-- A source as messages show it. -/
def DataSource.shown (d : DataSource) : String := "<DataSource: " ++ d.name ++ ">"

/-- Whether a name is private to the object that it is an attribute of. -/
def isPrivateName (name : String) : Bool := Text.startsWith ['_'] name.toList

/-- The identifier of a record, or of the default record. -/
def recordOr (defaultId id : Value) : Value := if id.isNull then defaultId else id

/-! ## Records of named fields -/

/-- A store of custom fields: records, and what has been declared of fields.  Both should be
    mappings. -/
structure FieldStore where
  records : Keyed Value := []
  declared : Entries := []
  defaultId : Value := .null

namespace FieldStore

/-- A record; one that does not exist or is empty has no fields. -/
def record (s : FieldStore) (id : Value) : Except Failure Value :=
  (Keyed.find s.records (recordOr s.defaultId id)).map fun found =>
    match found with
    | some record => if record.isPresent then record else .mapping []
    | none => .mapping []

def value (s : FieldStore) (field : String) (id : Value) : Except Failure Value := do
  match ← s.record id with
  | .mapping es => return Entries.value es field
  | record => throw record.noEntries

/-- The declaration of a field with its name. -/
def metadata (s : FieldStore) (field : String) : Except Failure (Option Entries) :=
  match Entries.value s.declared field with
  | .null => .ok none
  | .mapping es =>
    .ok (some (es.foldl (fun all e => Named.set all e.1 e.2) [("name", .text field)]))
  | v => .error (.notMapping v.typeName)

/-- A declared field with its label, which is its name if it has none. -/
def declaredField (field : String × Value) : Except Failure KnownField :=
  match field.2 with
  | .mapping es => .ok ⟨.text field.1, (Entries.value? es "label").getD (.text field.1)⟩
  | v => .error v.noEntries

/-- Whether a name is that of a declared field.  It must be a value that can be a key. -/
def isDeclared (s : FieldStore) (name : Value) : Except Failure Bool := do
  name.checkKey
  return s.declared.any fun field => name.isText field.1

/-- The names in a record that are not declared, with themselves for their labels. -/
def otherFields (s : FieldStore) (record : Value) : Except Failure (List KnownField) := do
  let names ← record.elements
  let others ← names.filterM fun name => (s.isDeclared name).map (!·)
  return others.map fun name => ⟨name, name⟩

/-- The declared fields, then those of the record.  Without a record there are only the
    declared ones. -/
def knownFields (s : FieldStore) (id : Value) : Except Failure (List KnownField) := do
  let others ←
    if (recordOr s.defaultId id).isNull then pure [] else s.otherFields (← s.record id)
  return (← s.declared.mapM declaredField) ++ others

def toDataSource (s : FieldStore) : DataSource :=
  ⟨"custom", s.value, fun field _ => s.metadata field, s.knownFields⟩

/-- Sets a field of a record that exists. -/
def setValue (s : FieldStore) (id : Value) (field : String) (v : Value) : FieldStore :=
  let change : Value → Value
    | .mapping es => .mapping (Named.set es field v)
    | record => record
  { s with records := s.records.map fun e =>
      if e.1.sameKey id then (e.1, change e.2) else e }

end FieldStore

/-! ## Records of any kind -/

/-- A store of native properties: records that are objects or mappings, and fields that are
    computed from a record. -/
structure PropertyStore where
  records : Keyed Value := []
  computed : List (String × (Value → Except Failure Value)) := []
  labels : Entries := []
  defaultId : Value := .null

namespace PropertyStore

/-- A record, null if it does not exist. -/
def record (s : PropertyStore) (id : Value) : Except Failure Value :=
  (Keyed.find s.records (recordOr s.defaultId id)).map (·.getD .null)

/-- A property of a record.  Private attributes are not shown; the keys of a mapping are. -/
def property (record : Value) (field : String) : Value :=
  match record with
  | .mapping es => Entries.value es field
  | record =>
    if isPrivateName field then .null
    else (record.attribute? field).getD .null

/-- The value of a field; a computed field hides the property of the same name. -/
def value (s : PropertyStore) (field : String) (id : Value) : Except Failure Value := do
  let record ← s.record id
  if record.isNull then return .null
  match s.computed.lookup field with
  | some compute => compute record
  | none => return property record field

def label (s : PropertyStore) (field : String) : Value :=
  (Entries.value? s.labels field).getD (.text field)

def isComputed (s : PropertyStore) (field : String) : Bool := (s.computed.lookup field).isSome

/-- What is known about a field that has a label or is computed. -/
def metadata (s : PropertyStore) (field : String) : Option Entries :=
  if (Entries.value? s.labels field).isNone ∧ !s.isComputed field then none
  else some [("name", .text field), ("label", s.label field),
    ("kind", .text (if s.isComputed field then "computed" else "property"))]

/-- The names of the properties of a record. -/
def propertyNames (record : Value) : List String :=
  let names := match record with
    | .mapping es => Entries.names es
    | record => Entries.names (record.attributes?.getD [])
  names.filter fun name => !isPrivateName name

/-- Names followed by those of others that are not among them. -/
def addNames (names others : List String) : List String :=
  names ++ others.filter fun name => !names.contains name

/-- The labelled fields, then the computed ones, then those of the record. -/
def knownFields (s : PropertyStore) (id : Value) : Except Failure (List KnownField) := do
  let named := addNames (Entries.names s.labels) (s.computed.map (·.1))
  let record ← s.record id
  return (addNames named (propertyNames record)).map fun name => ⟨.text name, s.label name⟩

def toDataSource (s : PropertyStore) : DataSource :=
  ⟨"native", s.value, fun field _ => .ok (s.metadata field), s.knownFields⟩

/-- Sets a property of a record that exists. -/
def setValue (s : PropertyStore) (id : Value) (field : String) (v : Value) : PropertyStore :=
  let change : Value → Value
    | .mapping es => .mapping (Named.set es field v)
    | .object es => .object (Named.set es field v)
    | record => record
  { s with records := s.records.map fun e =>
      if e.1.sameKey id then (e.1, change e.2) else e }

end PropertyStore
end RecordTemplate
