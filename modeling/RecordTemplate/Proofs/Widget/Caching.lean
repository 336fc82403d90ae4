/-
  RecordTemplate.Proofs.Widget.Caching

  Widgets over one cache.  What a widget shows for texts is a text, and the key under which it is
  kept says which text (`Call.html_eq_of_key`).  So a cache that holds nothing but what widgets
  have shown (`Faithful`) makes no difference to what they show, whether entries expire, the
  cache is cleared or the remote store fails (`Serves.htmls_eq`).
-/

import Mathlib
import RecordTemplate.Proofs.Cache.Freshness
import RecordTemplate.Proofs.Cache.Keys
import RecordTemplate.Proofs.Pass.Clock
import RecordTemplate.Widget

namespace RecordTemplate.Widget

open RecordTemplate.Cache RecordTemplate.Calendar RecordTemplate.Render

variable {σ : Type}

/-! ## What widgets show -/

theorem render_output_text (r : Renderer) (template : String) (recordId : Value)
    (row : Option Row) : ∃ s, (r.render (.text template) recordId row).output = .text s := by
  unfold Renderer.render
  split
  · unfold Renderer.runPass
    dsimp only
    split
    · exact ⟨_, rfl⟩
    · exact ⟨template, rfl⟩
  · exact ⟨"", rfl⟩

theorem value?_textEntries (es : List (String × String)) (name : String) :
    Entries.value? (textEntries es) name = (es.lookup name).map .text := by
  induction es with
  | nil => rfl
  | cons e es ih =>
    rw [textEntries, Entries.value?, List.map_cons, List.lookup_cons, List.lookup_cons]
    split
    · rfl
    · exact ih

theorem settingsTemplate_text (es : List (String × String)) (name : String) :
    ∃ template, settingsTemplate (textEntries es) name = .text template := by
  rw [settingsTemplate, value?_textEntries]
  cases es.lookup name with
  | none => exact ⟨"", rfl⟩
  | some template => exact ⟨template, rfl⟩

theorem joined_text (index : Nat) {parts : List Value} (h : ∀ v ∈ parts, ∃ s, v = .text s) :
    ∃ s, joined index parts = .ok s := by
  induction parts generalizing index with
  | nil => exact ⟨"", rfl⟩
  | cons v parts ih =>
    obtain ⟨⟨s, rfl⟩, hrest⟩ := List.forall_mem_cons.1 h
    obtain ⟨rest, hjoined⟩ := ih (index + 1) hrest
    exact ⟨s ++ rest, by rw [joined, hjoined]; rfl⟩

theorem assemble_text (header footer : String) {items : List Value}
    (h : ∀ v ∈ items, ∃ s, v = .text s) :
    ∃ s, assemble (.text header) (.text footer) items = .ok (.text s) := by
  obtain ⟨body, hbody⟩ := joined_text 0 h
  exact ⟨header ++ body ++ footer, by rw [assemble, hbody]; rfl⟩

/-- Rows rendered with templates that are texts come out as a text. -/
theorem rowsWith_text (r : Renderer) (values : Value) (es : List (String × String))
    (recordId : Value) : ∃ s, (rowsWith r values (textEntries es) recordId).1 = .ok (.text s) := by
  have hpart (name : String) :
      ∃ s, (process r (settingsTemplate (textEntries es) name) recordId).1 = .text s := by
    obtain ⟨template, htemplate⟩ := settingsTemplate_text es name
    rw [htemplate]
    exact render_output_text r template recordId none
  have hitem (row : Value) :
      ∃ s, (processItem r (settingsTemplate (textEntries es) "item_template") row recordId).1 =
        .text s := by
    obtain ⟨template, htemplate⟩ := settingsTemplate_text es "item_template"
    rw [htemplate]
    exact render_output_text r template recordId _
  have hempty : ∃ s, (Except.ok (process r (settingsTemplate (textEntries es)
      "no_results_template") recordId).1 : Except Failure Value) = .ok (.text s) := by
    obtain ⟨s, hs⟩ := hpart "no_results_template"
    exact ⟨s, congrArg Except.ok hs⟩
  unfold rowsWith
  dsimp only
  split
  · exact hempty
  · exact hempty
  · obtain ⟨header, hheader⟩ := hpart "header_template"
    obtain ⟨footer, hfooter⟩ := hpart "footer_template"
    rw [hheader, hfooter]
    refine assemble_text header footer fun v hv => ?_
    simp only [List.map_map, List.mem_map, Function.comp_apply] at hv
    obtain ⟨row, -, rfl⟩ := hv
    exact hitem row

/-! ## Calls -/

/-- A call of a widget that keeps its output. -/
inductive Call where
  | content (template : String) (recordId : Option Int) (widgetId : String)
  | repeater (settings : TextSettings) (recordId : Option Int) (widgetId : String)

namespace Call

def recordId : Call → Option Int
  | content _ id _ | repeater _ id _ => id

def widgetId : Call → String
  | content _ _ id | repeater _ _ id => id

def settings : Call → TextSettings
  | content template _ _ => ⟨[("template", template)], by simp⟩
  | repeater s _ _ => s

/-- The name of the field whose rows a widget repeats. -/
def fieldName (s : TextSettings) : Value :=
  Entries.value (textEntries s.entries) "repeater_field_name"

/-- Whether the output of a call is kept; a widget without a field shows nothing. -/
def IsKept : Call → Prop
  | content .. => True
  | repeater s _ _ => (fieldName s).isPresent = true

/-- The key under which the output is kept. -/
def key (call : Call) : String :=
  outputKey (recordValue call.recordId) call.widgetId call.settings.value

/-- What a call does over a cache that may be absent. -/
def run (r : Renderer) (access : CacheAccess σ) : Call → Outcome σ
  | content template id widgetId =>
    Widget.content r access (.text template) (recordValue id) widgetId
  | repeater s id widgetId => Widget.repeater r access s.value (recordValue id) widgetId

/-- What a call shows without a cache. -/
def html (r : Renderer) (call : Call) : Except Failure Value :=
  (call.run r (⟨none, 0, 0⟩ : CacheAccess Empty)).html

/-- The output of a call that is kept. -/
def render (r : Renderer) : Call → Output
  | content template id _ =>
    let (html, events) := process r (.text template) (recordValue id)
    (.ok html, events)
  | repeater s id _ =>
    let (values, fetching) := fetchRows r (fieldName s) (recordValue id)
    let (html, events) := rowsWith r values (textEntries s.entries) (recordValue id)
    (html, fetching ++ events)

variable {r : Renderer} {call call' : Call}

theorem run_of_kept (h : call.IsKept) (access : CacheAccess σ) :
    call.run r access = cached access (recordValue call.recordId) call.widgetId
      call.settings.value fun _ => call.render r := by
  cases call with
  | content template id widgetId => rfl
  | repeater s id widgetId => exact if_pos h

theorem run_of_not_kept (h : ¬ call.IsKept) (access : CacheAccess σ) :
    call.run r access = ⟨.ok (.text ""), access.cache, []⟩ := by
  cases call with
  | content template id widgetId => exact absurd trivial h
  | repeater s id widgetId => exact if_neg h

theorem html_of_kept (h : call.IsKept) : call.html r = (call.render r).1 := by
  rw [html, run_of_kept h]
  rfl

/-- What a call shows is a text. -/
theorem html_text (r : Renderer) (call : Call) : ∃ s, call.html r = .ok (.text s) := by
  by_cases h : call.IsKept
  · rw [html_of_kept h]
    cases call with
    | content template id widgetId =>
      obtain ⟨s, hs⟩ := render_output_text r template (recordValue id) none
      exact ⟨s, congrArg Except.ok hs⟩
    | repeater s id widgetId => exact rowsWith_text r _ s.entries (recordValue id)
  · exact ⟨"", by rw [html, run_of_not_kept h]⟩

/-! ## The clock of the day -/

/-- What a call shows does not depend on the clock of the day. -/
def Clockless (r : Renderer) (call : Call) : Prop :=
  ∀ day, call.html { r with now := day } = call.html r

/-- Without a filter that reads the clock no call depends on it. -/
theorem clockless_of_filters (h : r.filters.IgnoresClock) (call : Call) : call.Clockless r := by
  intro day
  have hprocess : process { r with now := day } = process r := by
    unfold process
    rw [Renderer.render_now h]
  have hitem : processItem { r with now := day } = processItem r := by
    unfold processItem
    rw [Renderer.render_now h]
  by_cases hkept : call.IsKept
  · rw [html_of_kept hkept, html_of_kept hkept]
    cases call with
    | content template id widgetId => rw [render, render, hprocess]
    | repeater s id widgetId =>
      have hfetch : fetchRows { r with now := day } = fetchRows r := rfl
      have hrows : rowsWith { r with now := day } = rowsWith r := by
        unfold rowsWith
        rw [hprocess, hitem]
      rw [render, render, hfetch, hrows]
  · rw [html, html, run_of_not_kept hkept, run_of_not_kept hkept]

/-! ## Keys of calls -/

/-- What is shown with settings depends on what is under their names. -/
theorem rowsWith_congr {es es' : Entries}
    (h : ∀ name, Entries.value? es name = Entries.value? es' name) (values recordId : Value) :
    rowsWith r values es recordId = rowsWith r values es' recordId := by
  have htemplate : settingsTemplate es = settingsTemplate es' := by
    funext name
    rw [settingsTemplate, settingsTemplate, h]
  unfold rowsWith
  rw [htemplate]

theorem not_kept_of_same {s : TextSettings} {template : String} {id : Option Int}
    {widgetId : String}
    (h : TextSettings.Same ⟨[("template", template)], by simp⟩ s) :
    ¬ (repeater s id widgetId).IsKept := by
  have hentries : [("template", template)] = s.entries := List.singleton_perm.1 h
  simp [IsKept, fieldName, ← hentries, Entries.value, value?_textEntries, Value.isPresent]

/-- The key of a call says what it shows. -/
theorem html_eq_of_key (h : call.IsKept) (h' : call'.IsKept)
    (hmd5 : call.settings.HashSeparates call'.settings) (hkey : call.key = call'.key) :
    call.html r = call'.html r := by
  obtain ⟨hglued, hhash⟩ := outputKey_eq_iff_glued.1 hkey
  obtain ⟨hrecord, -⟩ := (glued_inj (underscore_not_mem_recordValue _)
    (underscore_not_mem_recordValue _)).1 hglued
  have hid : call.recordId = call'.recordId := recordValue_display_inj hrecord
  have hsame : call.settings.Same call'.settings := (TextSettings.settingsHash_eq_iff hmd5).1 hhash
  rw [html_of_kept h, html_of_kept h']
  cases call with
  | content template id widgetId =>
    cases call' with
    | content template' id' widgetId' =>
      obtain rfl : id = id' := hid
      obtain rfl : template = template' := by simpa using List.singleton_perm_singleton.1 hsame
      rfl
    | repeater s id' widgetId' => exact absurd h' (not_kept_of_same hsame)
  | repeater s id widgetId =>
    cases call' with
    | content template id' widgetId' => exact absurd h (not_kept_of_same hsame.symm)
    | repeater s' id' widgetId' =>
      obtain rfl : id = id' := hid
      have hperm : s.entries.Perm s'.entries := hsame
      have hvalue (name : String) : Entries.value? (textEntries s.entries) name =
          Entries.value? (textEntries s'.entries) name := by
        rw [value?_textEntries, value?_textEntries,
          TextSettings.lookup_eq_of_perm hperm s.distinct]
      have hfield : fieldName s = fieldName s' := by
        rw [fieldName, fieldName, Entries.value, Entries.value, hvalue]
      simp only [render, hfield, rowsWith_congr hvalue]

end Call

/-! ## Over a cache -/

/-- All that asking a cache for an output does: it is found, or it is made and stored. -/
theorem cached_cases {c : OutputCache σ} (henabled : c.enabled = true) (now later : Moment)
    (recordId : Value) (widgetId : String) (settings : Value) (render : Unit → Output) {s : String}
    (hrender : (render ()).1 = .ok (.text s)) :
    let key := outputKey recordId widgetId settings
    let read := c.perform now (.get key)
    let outcome := cached ⟨some c, now, later⟩ recordId widgetId settings render
    (∃ v, read.1 = some v ∧ outcome.html = .ok v ∧ outcome.cache = some read.2) ∨
      (outcome.html = .ok (.text s) ∧
        outcome.cache = some (read.2.perform later (.set key s)).2) := by
  intro key read outcome
  have houtcome : outcome = cached ⟨some c, now, later⟩ recordId widgetId settings render := rfl
  simp only [cached, henabled, if_true] at houtcome
  cases hfound : read.1.filter (!·.isNull) with
  | some v =>
    rw [show (c.get now key).1.filter (!·.isNull) = some v from hfound] at houtcome
    exact .inl ⟨v, (Option.filter_eq_some_iff.1 hfound).1, by rw [houtcome], by rw [houtcome]; rfl⟩
  | none =>
    rw [show (c.get now key).1.filter (!·.isNull) = none from hfound] at houtcome
    simp only [hrender] at houtcome
    exact .inr ⟨by rw [houtcome], by rw [houtcome]; rfl⟩

/-- What a cache holds from a moment on, under the keys of some calls, is what they show. -/
def Faithful (shown : σ → Contents) (r : Renderer) (calls : List Call) (c : OutputCache σ)
    (t₀ : Moment) : Prop :=
  ∀ t call v, t₀ ≤ t → call ∈ calls → call.IsKept → c.contents shown t call.key = some v →
    call.html r = .ok v

section Faithful

variable {shown : σ → Contents} {r : Renderer} {calls : List Call} {c : OutputCache σ}
  {t₀ t : Moment}

/-- An operation that stores nothing but what a call shows leaves a cache faithful. -/
theorem Faithful.perform (h : Faithful shown r calls c t₀) (hc : c.Sound shown) (ht : t₀ ≤ t)
    (op : Operation)
    (hop : ∀ key s, op = .set key s →
      ∀ call ∈ calls, call.IsKept → call.key = key → call.html r = .ok (.text s)) :
    Faithful shown r calls (c.perform t op).2 t := by
  intro t' call v ht' hcall hkept hv
  have hstep := hc.performs t op
  obtain hnone | heq := hstep.lost ht' call.key
  · rw [hv] at hnone
    cases hnone
  · rw [hv] at heq
    cases op with
    | get key => exact h t' call v (ht.trans ht') hcall hkept heq.symm
    | clear => cases heq
    | set key s =>
      simp only [Operation.effect] at heq
      by_cases hkey : call.key = key
      · rw [hkey, Contents.put_self] at heq
        split at heq
        · cases heq
          exact hop key s rfl call hcall hkept hkey
        · cases heq
      · rw [Contents.put_of_ne _ _ _ _ _ hkey] at heq
        exact h t' call v (ht.trans ht') hcall hkept heq.symm

end Faithful

/-! ## Runs -/

/-- A call of a widget by the clock of the day, with the moments at which the cache is read and,
    if need be, written; or the cache cleared at a moment. -/
inductive Step where
  | call (call : Call) (day : DateTime) (read written : Moment)
  | clear (moment : Moment)

namespace Step

def call? : Step → Option Call
  | .call made _ _ _ => some made
  | .clear _ => none

def moments : Step → List Moment
  | .call _ _ read written => [read, written]
  | .clear t => [t]

end Step

/-- The clock of the cache does not go back. -/
def InOrder (steps : List Step) : Prop := (steps.flatMap Step.moments).Pairwise (· ≤ ·)

instance (steps : List Step) : Decidable (InOrder steps) :=
  inferInstanceAs (Decidable (List.Pairwise _ _))

/-- What the calls of a run show over a cache. -/
def htmls (r : Renderer) (c : OutputCache σ) : List Step → List (Except Failure Value)
  | [] => []
  | .call call day read written :: steps =>
    let outcome := call.run { r with now := day } ⟨some c, read, written⟩
    outcome.html :: htmls r (outcome.cache.getD c) steps
  | .clear t :: steps => htmls r (c.clear t).2.1 steps

/-- What they show without a cache. -/
def uncachedHtmls (r : Renderer) : List Step → List (Except Failure Value)
  | [] => []
  | .call call day _ _ :: steps => call.html { r with now := day } :: uncachedHtmls r steps
  | .clear _ :: steps => uncachedHtmls r steps

theorem uncachedHtmls_text (r : Renderer) (steps : List Step) :
    ∀ html ∈ uncachedHtmls r steps, ∃ s, html = .ok (.text s) := by
  induction steps with
  | nil => simp [uncachedHtmls]
  | cons step steps ih =>
    cases step with
    | call call day read written => exact List.forall_mem_cons.2 ⟨call.html_text _, ih⟩
    | clear t => exact ih

/-- A cache that serves what calls show. -/
structure Serves (shown : σ → Contents) (r : Renderer) (calls : List Call) (c : OutputCache σ)
    (t₀ : Moment) : Prop where
  sound : c.Sound shown
  enabled : c.enabled = true
  faithful : Faithful shown r calls c t₀

section Run

variable {shown : σ → Contents} {r : Renderer} {calls : List Call} {c : OutputCache σ}
  {t₀ t : Moment}

theorem Serves.mono (h : Serves shown r calls c t₀) (ht : t₀ ≤ t) : Serves shown r calls c t :=
  ⟨h.sound, h.enabled, fun t' call v ht' => h.faithful t' call v (ht.trans ht')⟩

theorem Serves.perform (h : Serves shown r calls c t₀) (ht : t₀ ≤ t) (op : Operation)
    (hop : ∀ key s, op = .set key s →
      ∀ call ∈ calls, call.IsKept → call.key = key → call.html r = .ok (.text s)) :
    Serves shown r calls (c.perform t op).2 t :=
  ⟨(h.sound.performs t op).sound, (h.sound.performs t op).enabled.trans h.enabled,
    h.faithful.perform h.sound ht op hop⟩

variable (hclock : ∀ call ∈ calls, call.Clockless r)
  (hmd5 : ∀ call ∈ calls, ∀ call' ∈ calls, call.settings.HashSeparates call'.settings)
include hclock hmd5

/-- One call over a cache that serves: it shows what it shows without one. -/
theorem Serves.call (h : Serves shown r calls c t₀) {call : Call} (hcall : call ∈ calls)
    (day : DateTime) {read written : Moment} (hread : t₀ ≤ read) (hwritten : read ≤ written) :
    let outcome := call.run { r with now := day } ⟨some c, read, written⟩
    outcome.html = call.html { r with now := day } ∧
      ∃ c', outcome.cache = some c' ∧ Serves shown r calls c' written := by
  intro outcome
  by_cases hkept : call.IsKept
  · obtain ⟨s, hs⟩ := call.html_text { r with now := day }
    have hshows : call.html r = .ok (.text s) := (hclock call hcall day).symm.trans hs
    have hrun : outcome = cached ⟨some c, read, written⟩ (recordValue call.recordId) call.widgetId
        call.settings.value fun _ => call.render { r with now := day } := call.run_of_kept hkept _
    have hlook : Serves shown r calls (c.perform read (.get call.key)).2 read :=
      h.perform hread _ (by simp)
    obtain ⟨v, hfound, hhtml, hcache⟩ | ⟨hhtml, hcache⟩ :=
      cached_cases h.enabled read written (recordValue call.recordId) call.widgetId
        call.settings.value (fun _ => call.render { r with now := day })
        ((call.html_of_kept hkept).symm.trans hs)
    · -- what is found is what the call shows
      have hheld := h.sound.held_of_answer hfound
      have hv : call.html r = .ok v := h.faithful read call v hread hcall hkept hheld
      refine ⟨?_, _, hrun ▸ hcache, hlook.mono hwritten⟩
      rw [hrun, hhtml, ← hv, hclock call hcall day]
    · -- what is stored is what every call with this key shows
      refine ⟨by rw [hrun, hhtml, hs], _, hrun ▸ hcache, hlook.perform hwritten _ ?_⟩
      rintro key s' ⟨rfl, rfl⟩ call' hcall' hkept' hkey
      rw [Call.html_eq_of_key hkept' hkept (hmd5 call' hcall' call hcall) hkey, hshows]
  · have hrun : outcome = ⟨.ok (.text ""), some c, []⟩ := call.run_of_not_kept hkept _
    refine ⟨?_, c, by rw [hrun], h.mono (hread.trans hwritten)⟩
    rw [hrun, Call.html, call.run_of_not_kept hkept]

/-- A run over a cache that serves shows what it shows without one. -/
theorem Serves.htmls_eq (h : Serves shown r calls c t₀) {steps : List Step}
    (hcalls : ∀ step ∈ steps, ∀ call, step.call? = some call → call ∈ calls)
    (horder : (t₀ :: steps.flatMap Step.moments).Pairwise (· ≤ ·)) :
    htmls r c steps = uncachedHtmls r steps := by
  induction steps generalizing c t₀ with
  | nil => rfl
  | cons step steps ih =>
    obtain ⟨hstep, hrest⟩ := List.forall_mem_cons.1 hcalls
    cases step with
    | call call day read written =>
      have horder' :
          (t₀ :: read :: written :: steps.flatMap Step.moments).Pairwise (· ≤ ·) := horder
      obtain ⟨hread, hlater⟩ := List.pairwise_cons.1 horder'
      obtain ⟨hwritten, hlater⟩ := List.pairwise_cons.1 hlater
      obtain ⟨hhtml, c', hcache, hserves⟩ := h.call hclock hmd5 (hstep call rfl) day
        (hread read (by simp)) (hwritten written (by simp))
      rw [htmls, uncachedHtmls, hhtml, hcache, Option.getD_some, ih hserves hrest hlater]
    | clear t =>
      have horder' : (t₀ :: t :: steps.flatMap Step.moments).Pairwise (· ≤ ·) := horder
      obtain ⟨ht, hlater⟩ := List.pairwise_cons.1 horder'
      rw [htmls, uncachedHtmls]
      exact ih (h.perform (ht t (by simp)) .clear (by simp)) hrest hlater

end Run

/-- The calls of a run. -/
def calls (steps : List Step) : List Call := steps.filterMap Step.call?

/-- A renderer over two records with names, one of which has rows, without filters for dates. -/
def twoRecords : Renderer where
  customKeyword := "custom"
  nativeKeyword := "native"
  rowKeyword := "row"
  sources := [("custom", FieldStore.toDataSource
    { records := [
      (.int 1, .mapping [("name", .text "Ada"),
        ("rows", .list [.mapping [("x", .text "a")], .mapping [("x", .text "b")]])]),
      (.int 2, .mapping [("name", .text "Bob")])] })]
  attachments := none
  filters := .ofFilters (Filter.textFilters ++ Filter.numberFilters ++ Filter.listFilters)
  locale := "en_US"
  limit := 10
  now := ⟨⟨2024, 1, 15, by decide⟩, .midnight, none⟩

def nameSettings : TextSettings := ⟨[("template", "%custom:name|upper%")], by decide⟩

def rowsSettings : TextSettings :=
  ⟨[("item_template", "%row:x%,"), ("no_results_template", "none"),
    ("repeater_field_name", "rows")], by decide⟩

/-- The name of a record. -/
def nameOf (id : Option Int) (widgetId : String) (t : Moment) : Step :=
  .call (.content "%custom:name|upper%" id widgetId) twoRecords.now t t

/-- The rows of a record. -/
def rowsOf (id : Option Int) (widgetId : String) (t : Moment) : Step :=
  .call (.repeater rowsSettings id widgetId) twoRecords.now t t

/-- Both widgets under ids with underscores: found again, found in memory, cleared, and expired. -/
def visits : List Step :=
  [nameOf (some 1) "a_b" 0, rowsOf (some 1) "a_b" 0, nameOf (some 1) "a_b" 10,
    nameOf (some 2) "a_b" 20, rowsOf none "1" 30, nameOf (some 2) "a_b" 40, .clear 50,
    nameOf (some 2) "a_b" 60, nameOf (some 2) "a_b" 120]

theorem settings_of_visits :
    ∀ call ∈ calls visits, call.settings = nameSettings ∨ call.settings = rowsSettings := by
  simp [calls, visits, nameOf, rowsOf, Step.call?, Call.settings, nameSettings]

end RecordTemplate.Widget
