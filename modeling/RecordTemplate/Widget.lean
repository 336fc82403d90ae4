/-
  RecordTemplate.Widget

  Widgets made of templates: one template for a record, a structure repeated for every row,
  and an element that is shown on a condition.  The first two keep their output in a cache.
-/

import RecordTemplate.Cache.Output
import RecordTemplate.Render.Renderer

namespace RecordTemplate.Widget

open RecordTemplate.Cache RecordTemplate.Render

variable {σ : Type}

/-! ## Caching -/

/-- A cache that may be absent, the moment at which it is asked for an output, and the one at
    which an output that had to be made is stored. -/
structure CacheAccess (σ : Type) where
  cache : Option (OutputCache σ)
  now : Moment
  later : Moment

/-- What a widget gives: its output, the cache afterwards, and what happened. -/
structure Outcome (σ : Type) where
  html : Except Failure Value
  cache : Option (OutputCache σ)
  events : List Event

/-- An output that is being made, and what happens meanwhile. -/
abbrev Output := Except Failure Value × List Event

/-- The output of a widget stored under its key, if there is one. -/
def store (c : OutputCache σ) (now : Moment) (key : String) (html : Except Failure Value) :
    OutputCache σ × List LogRecord :=
  match html with
  | .ok html => c.set now key html
  | .error _ => (c, [])

/-- The output of a widget, from the cache if it is there. -/
def cached (access : CacheAccess σ) (recordId : Value) (widgetId : String) (settings : Value)
    (render : Unit → Output) : Outcome σ :=
  match access.cache with
  | none =>
    let (html, events) := render ()
    ⟨html, none, events⟩
  | some c =>
    if c.enabled then
      let key := outputKey recordId widgetId settings
      let (found, read, records) := c.get access.now key
      let before := records.map Event.logged
      match found.filter (!·.isNull) with
      | some html =>
        ⟨.ok html, some read, before ++
          [.logged ⟨.debug, "Serving widget " ++ widgetId ++ " from cache"⟩]⟩
      | none =>
        let (html, events) := render ()
        -- the store may have failed while reading; it is not asked again then
        let (written, records) := store read access.later key html
        ⟨html, some written, before ++ events ++ records.map Event.logged⟩
    else
      let (html, events) := render ()
      ⟨html, some c, events⟩

/-! ## Content -/

/-- A template rendered for a record. -/
def process (r : Renderer) (template recordId : Value) : Value × List Event :=
  let rendering := r.render template recordId none
  (rendering.output, rendering.events)

/-- A template rendered for a row of a record; an absent row has no fields. -/
def processItem (r : Renderer) (template row recordId : Value) : Value × List Event :=
  let rendering := r.render template recordId (some (if row.isPresent then row else .mapping []))
  (rendering.output, rendering.events)

/-- A widget that shows one template. -/
def content (r : Renderer) (access : CacheAccess σ) (template recordId : Value)
    (widgetId : String) : Outcome σ :=
  cached access recordId widgetId (.mapping [("template", template)]) fun _ =>
    let (html, events) := process r template recordId
    (.ok html, events)

/-! ## Repeated structures -/

/-- A template among the settings, empty if there is none. -/
def settingsTemplate (settings : Entries) (name : String) : Value :=
  (Entries.value? settings name).getD (.text "")

/-- Texts one after the other; `index` is that of the first. -/
def joined (index : Nat) : List Value → Except Failure String
  | [] => .ok ""
  | .text s :: parts => (joined (index + 1) parts).map (s ++ ·)
  | v :: _ => .error (.notTextPart index v.typeName)

/-- Two texts one after the other. -/
def append (left right : Value) : Except Failure Value :=
  match left, right with
  | .text s, .text t => .ok (.text (s ++ t))
  | v, w => .error (.notJoinable v.typeName w.typeName)

/-- The items of a repeated structure between its header and its footer. -/
def assemble (header footer : Value) (items : List Value) : Except Failure Value := do
  let body ← joined 0 items
  append (← append header (.text body)) footer

/-- Rows rendered with the settings of a repeater: the item template for every row that is a
    mapping, between header and footer; another template if there are no rows.  The header
    is rendered after the items. -/
def rowsWith (r : Renderer) (rows : Value) (settings : Entries) (recordId : Value) : Output :=
  let part (name : String) := process r (settingsTemplate settings name) recordId
  match rows.sequence? with
  | none | some [] =>
    let (html, events) := part "no_results_template"
    (.ok html, events)
  | some rows =>
    let item := settingsTemplate settings "item_template"
    let items := (rows.filter fun row => row.entries?.isSome).map fun row =>
      processItem r item row recordId
    let header := part "header_template"
    let footer := part "footer_template"
    (assemble header.1 footer.1 (items.map (·.1)),
      items.flatMap (·.2) ++ header.2 ++ footer.2)

/-- Rows rendered with the settings of a repeater, which must be a mapping. -/
def rows (r : Renderer) (rows settings recordId : Value) : Output :=
  match settings with
  | .mapping es => rowsWith r rows es recordId
  | v => (.error v.noEntries, [])

/-- The rows in a custom field, null if they cannot be read.  Only a text names a field. -/
def fetchRows (r : Renderer) (field recordId : Value) : Value × List Event :=
  match r.sources.lookup r.customKeyword with
  | none => (.null, [])
  | some source =>
    let call := Event.asked r.customKeyword field recordId
    match field with
    | .text name =>
      match source.value name recordId with
      | .ok v => (v, [call])
      | .error e =>
        (.null, [call, .logged ⟨.error,
          "Failed to fetch repeater rows '" ++ name ++ "': " ++ e.message⟩])
    | _ => (.null, [call])

/-- A widget that repeats a template for the rows of a custom field. -/
def repeater (r : Renderer) (access : CacheAccess σ) (settings recordId : Value)
    (widgetId : String) : Outcome σ :=
  match settings with
  | .mapping es =>
    let field := Entries.value es "repeater_field_name"
    if field.isPresent then
      cached access recordId widgetId settings fun _ =>
        let (values, fetching) := fetchRows r field recordId
        let (html, events) := rowsWith r values es recordId
        (html, fetching ++ events)
    else ⟨.ok (.text ""), access.cache, []⟩
  | v => ⟨.error v.noEntries, access.cache, []⟩

/-! ## Visibility -/

/-- Whether a condition is nothing but white space. -/
def isBlank (condition : Value) : Except Failure Bool :=
  match condition with
  | .text s => .ok (Text.trim s.toList).isEmpty
  | .bytes bs => .ok (Value.plainBytes bs).isEmpty
  | v => if v.isPresent then .error (v.noOperation "strip") else .ok true

/-- Whether an element is shown: the decision of the host, and the condition if there is one. -/
def isVisible (r : Renderer) (condition recordId : Value) (default : Bool) :
    Except Failure (Bool × List Event) :=
  (isBlank condition).map fun blank =>
    if blank || !default then (default, []) else r.evaluate condition recordId

end RecordTemplate.Widget
