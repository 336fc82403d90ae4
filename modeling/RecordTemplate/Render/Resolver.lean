/-
  RecordTemplate.Render.Resolver

  Values of tags.  During one pass the value of a field of a record is fetched once.  Library
  items are unwrapped, vector images are inlined, terms show their names, and a property
  path leads into mappings and objects.
-/

import RecordTemplate.Render.Event
import RecordTemplate.Source.Attachment
import RecordTemplate.Source.DataSource
import RecordTemplate.Template.Tag
import RecordTemplate.Value.TermList

namespace RecordTemplate.Render

open RecordTemplate.Template

/-! ## Passes -/

/-- The identifier of a record as one caller gave it.  Identifiers are compared as keys.  One
    that equals nothing, such as what is not a number, is still the same key as itself: all
    uses of one given identifier have one `mention`. -/
structure RecordRef where
  id : Value
  mention : Nat := 0

def RecordRef.same (a b : RecordRef) : Bool := a.mention == b.mention || a.id.sameKey b.id

/-- A value that has been fetched. -/
structure CacheEntry where
  source : String
  record : RecordRef
  field : String
  value : Value

/-- The state of a pass: the values fetched, the terms behind fields, and what happened. -/
structure PassState where
  cache : List CacheEntry := []
  terms : Entries := []
  events : List Event := []

/-- A step of a pass.  A failure keeps the state. -/
abbrev PassM := ExceptT Failure (StateM PassState)

def notice (e : Event) : PassM Unit :=
  modify fun s => { s with events := s.events ++ [e] }

/-- A step whose failures are those of a data source. -/
def asSource {α : Type} (name : String) (x : Except Failure α) : PassM α :=
  match x with
  | .ok a => return a
  | .error (.source n message) => throw (.source n message)
  | .error e => throw (.source name e.message)

/-! ## Paths into values -/

/-- One step of a path: the entry of a mapping, or a public attribute. -/
def stepInto? (v : Value) (name : String) : Option Value :=
  match v with
  | .mapping es => Entries.value? es name
  | v => if isPrivateName name then none else v.attributes?.bind fun es => Entries.value? es name

/-- The value at the end of a path; null if a step cannot be taken. -/
def followPath (v : Value) : List String → Value
  | [] => v
  | name :: path =>
    match stepInto? v name with
    | some w => followPath w path
    | none => .null

/-- A path into a value, which may be wrapped as a library item. -/
def traverse (v : Value) (path : List String) : Value := followPath v.unwrapped path

/-! ## Resolution -/

/-- Where values come from. -/
structure Resolver where
  sources : List (String × DataSource)
  attachments : Option AttachmentStore
  rowKeyword : String

/-- The current row of a repeated structure, which should be a mapping. -/
abbrev Row := Value

/-- The value of a field of a row. -/
def rowValue (row : Row) (field : String) : Except Failure Value :=
  match row with
  | .mapping es => .ok (Entries.value es field)
  | v => .error v.noEntries

/-- A resolved value, and the terms that it lists. -/
structure Resolved where
  raw : Value
  terms : List Value := []

/-- The property that asks for the label of a field. -/
def labelProperty : String := "label"

namespace Resolver

/-- The entry of a field among the values fetched. -/
def cached? (s : PassState) (source : String) (record : RecordRef) (field : String) :
    Option Value :=
  (s.cache.find? fun e =>
    e.source == source && e.record.same record && e.field == field).map CacheEntry.value

/-- The value of a field of a record from a data source; null without a source. -/
def fetch (r : Resolver) (source field : String) (record : RecordRef) : PassM Value := do
  record.id.checkKey
  match cached? (← get) source record field with
  | some v =>
    notice (.lookedUp source record.id field true)
    return v
  | none =>
    notice (.lookedUp source record.id field false)
    let v ← match r.sources.lookup source with
      | none => pure .null
      | some d => do
        notice (.asked source (.text field) record.id)
        asSource source (d.value field record.id)
    modify fun s => { s with cache := s.cache ++ [⟨source, record, field, v⟩] }
    return v

/-- The value of a field: of the row for the row keyword, of a data source otherwise. -/
def resolve (r : Resolver) (source field : String) (record : RecordRef) (row : Option Row) :
    PassM Value := do
  if source = r.rowKeyword then
    match row with
    | some row => rowValue row field
    | none => return .null
  else r.fetch source field record

/-- What a data source knows about a field. -/
def metadata (r : Resolver) (source field : String) (recordId : Value) : PassM Entries :=
  match r.sources.lookup source with
  | none => return []
  | some d => do return (← asSource source (d.metadata field recordId)).getD []

/-- The name under which the terms of a field are kept. -/
def termsKey (r : Resolver) (source field : String) : String :=
  if source = r.rowKeyword then r.rowKeyword ++ "_" ++ field else field

/-- The text of a vector image, null if it cannot be read. -/
def inlineImage (r : Resolver) (record : Entries) : PassM Value := do
  match r.attachments with
  | none => return .null
  | some store =>
    match ← asSource "attachments" (store.file (Value.attachmentId record)) with
    | none | some "" => return .null
    | some path =>
      match ← asSource "attachments" (store.read path) with
      | none => return .null
      | some content =>
        notice (.inlined path)
        return .text content

/-- The value that a tag without properties shows. -/
def present (r : Resolver) (field : String) (v : Value) : PassM Value :=
  match v with
  | .mapping es =>
    if v.isVectorImage then do
      notice (.inlining field)
      r.inlineImage es
    else return v
  | .term t => return .text t.name
  | v => return v

/-- The value of a tag. -/
def resolveTag (r : Resolver) (tag : Tag) (record : RecordRef) (row : Option Row) :
    PassM Resolved := do
  -- the label is known about the field, whatever its value
  if tag.properties.getLast? = some labelProperty ∧ tag.source ≠ r.rowKeyword then
    let about ← r.metadata tag.source tag.field record.id
    return ⟨(Entries.value? about "label").getD (.text ""), []⟩
  let raw ← r.resolve tag.source tag.field record row
  -- the terms are kept for the filters that need more than their names
  if raw.isTermList then
    let terms := raw.sequence?.getD []
    modify fun s => { s with
      terms := Named.set s.terms (r.termsKey tag.source tag.field) (.list terms) }
    return ⟨.text (termListText terms tag.properties.head?), terms⟩
  else if tag.properties = [] then return ⟨← r.present tag.field raw.unwrapped, []⟩
  else return ⟨traverse raw tag.properties, []⟩

end Resolver
end RecordTemplate.Render
