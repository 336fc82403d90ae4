/-
  RecordTemplate.Render.Renderer

  The renderer of templates: it renders them for a record or a row, evaluates single
  conditions, checks templates against the known fields and filters, and lists what authors
  can use.  A failure that ends a pass leaves the template as it was.
-/

import RecordTemplate.Render.Pass
import RecordTemplate.Settings
import RecordTemplate.Template.Lint

namespace RecordTemplate

open RecordTemplate.Calendar RecordTemplate.Template RecordTemplate.Render

/-- A renderer of templates. -/
structure Renderer where
  customKeyword : String
  nativeKeyword : String
  rowKeyword : String
  sources : List (String × DataSource)
  attachments : Option AttachmentStore
  filters : Registry
  locale : String
  limit : Int
  now : DateTime

/-- What comes of rendering a template.  Without a template there was no pass, and nothing was
    counted. -/
structure Rendering where
  output : Value
  events : List Event
  stats : Option Stats
  terms : Entries

namespace Rendering

def diagnostics (r : Rendering) : List Diagnostic := r.events.filterMap Event.diagnostic?

end Rendering

/-- The text of a template.  An absent or empty value is the empty template. -/
def templateText (v : Value) : Except Failure (List Char) :=
  match v with
  | .text s => .ok s.toList
  | v => if v.isPresent then .error (.notText v.typeName) else .ok []

namespace Renderer

/-! ## Set-up -/

/-- A renderer with the built-in filters.  A locale that is not empty and a limit replace those
    of the settings. -/
def ofSettings (s : Settings) (locale : String) (limit : Option Int) (now : DateTime) :
    Renderer where
  customKeyword := s.customKeyword
  nativeKeyword := s.nativeKeyword
  rowKeyword := s.rowKeyword
  sources := []
  attachments := none
  filters := .builtin
  locale := if locale = "" then s.locale else locale
  limit := limit.getD s.maxIterations
  now := now

def keywords (r : Renderer) : Keywords :=
  Keywords.ofList [r.customKeyword, r.nativeKeyword, r.rowKeyword]

def resolver (r : Renderer) : Resolver := ⟨r.sources, r.attachments, r.rowKeyword⟩

/-- Adds a filter, or replaces the one of its name. -/
def registerFilter (r : Renderer) (f : Filter) : Renderer :=
  { r with filters := r.filters.registerNamed f }

/-- Adds a data source, or replaces the one of the keyword. -/
def registerSource (r : Renderer) (keyword : String) (source : DataSource) : Renderer :=
  { r with sources := Named.set r.sources keyword source }

/-- A pass for a record and at most one row. -/
def pass (r : Renderer) (recordId : Value) (row : Option Row) : Pass :=
  ⟨r.keywords, r.resolver, r.filters, r.locale, r.limit, r.now, recordId, row⟩

/-! ## Rendering -/

/-- The record of a failure that ended a pass. -/
def failureRecord (what : String) (e : Failure) : Event :=
  .logged ⟨.error, what ++ ": " ++ e.message⟩

/-- A pass over a template that is not empty. -/
def runPass (r : Renderer) (template : Value) (recordId : Value) (row : Option Row) :
    Rendering :=
  let step : PassM (List Char) := do (r.pass recordId row).render (← templateText template)
  match (step.run.run {} : Except Failure (List Char) × PassState) with
  | (.ok output, s) =>
    ⟨.text (String.ofList output), s.events, some (Stats.ofEvents s.events), s.terms⟩
  | (.error e, s) =>
    ⟨template, s.events ++ [failureRecord "Template processing failed" e],
      some (Stats.ofEvents s.events), s.terms⟩

/-- A template rendered for a record and at most one row. -/
def render (r : Renderer) (template : Value) (recordId : Value) (row : Option Row) :
    Rendering :=
  if template.isPresent then r.runPass template recordId row
  else ⟨.text "", [], none, []⟩

/-- Whether a condition holds for a record.  A condition that cannot be evaluated does not. -/
def evaluate (r : Renderer) (condition : Value) (recordId : Value) : Bool × List Event :=
  match condition with
  | .text s =>
    let step : PassM Bool := (r.pass recordId none).evaluate s.toList
    match (step.run.run {} : Except Failure Bool × PassState) with
    | (.ok holds, s) => (holds, s.events)
    | (.error e, s) => (false, s.events ++ [failureRecord "Condition evaluation failed" e])
  | v =>
    if v.isPresent then
      (false, [failureRecord "Condition evaluation failed" (.notText v.typeName)])
    else (false, [.malformedCondition v.display.toList])

/-! ## Templates without rendering -/

/-- The texts of the tags of a template. -/
def tagTexts (r : Renderer) (template : Value) : Except Failure (List (List Char)) :=
  (templateText template).map (Template.tagTexts r.keywords)

/-- The names of the fields of the sources asked so far. -/
abbrev KnownNames := List (String × List Value)

/-- The errors for the filters of a tag. -/
def filterErrors (r : Renderer) (tag : Tag) : List String :=
  (tag.filters.filter fun i => !r.filters.has i.name).map fun i =>
    "Unknown filter '" ++ i.name ++ "' in " ++ String.ofList tag.text

/-- The names of the fields of a source, which is asked once. -/
def knownNames (known : KnownNames) (keyword : String) (source : DataSource)
    (recordId : Value) : Except Failure (List Value × KnownNames) :=
  match known.lookup keyword with
  | some names => .ok (names, known)
  | none => (source.knownFields recordId).map fun fields =>
    let names := fields.map KnownField.name
    (names, (keyword, names) :: known)

/-- The errors for the source and the field of a tag. -/
def fieldErrors (r : Renderer) (recordId : Value) (known : KnownNames) (tag : Tag) :
    Except Failure (List String × KnownNames) :=
  if tag.source = r.rowKeyword then .ok ([], known)
  else match r.sources.lookup tag.source with
    | none =>
      .ok (["No data source for '" ++ tag.source ++ "' in " ++ String.ofList tag.text], known)
    | some source => do
      let (names, known) ← knownNames known tag.source source recordId
      -- a source that knows no fields says nothing about any
      if !names.isEmpty ∧ !names.any (·.isText tag.field) then
        return (["Unknown field '" ++ tag.field ++ "' in " ++ String.ofList tag.text], known)
      else return ([], known)

/-- The errors for the tags of a template. -/
def tagErrors (r : Renderer) (recordId : Value) : KnownNames → List Tag →
    Except Failure (List String)
  | _, [] => .ok []
  | known, tag :: tags => do
    let (errors, known) ← r.fieldErrors recordId known tag
    return r.filterErrors tag ++ errors ++ (← r.tagErrors recordId known tags)

/-- A template checked without rendering it. -/
def validate (r : Renderer) (template : Value) (recordId : Value) : Except Failure Report := do
  let text ← templateText template
  let report := Report.ofTemplate r.keywords text
  let tags := (Template.tagTexts r.keywords text).filterMap fun t => Tag.parse? r.keywords t 0
  let errors ← r.tagErrors recordId [] tags
  return { report with errors := report.errors ++ errors }

/-- The fields of every source. -/
def knownFields (r : Renderer) (recordId : Value) :
    Except Failure (List (String × List KnownField)) :=
  r.sources.mapM fun e => (e.2.knownFields recordId).map fun fields => (e.1, fields)

end Renderer
end RecordTemplate
