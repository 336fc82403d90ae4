/-
  RecordTemplate.Proofs.Pass.Completion

  No failure ends a pass.  If the record can be a key and the row is a mapping, then the only
  failures of a lookup are those of data sources, which are stopped at the tag.  This holds
  whatever the data sources, the attachments and the filters do, even if they change between
  two tags (`Pass.renderAmid`).
-/

import RecordTemplate.Proofs.Pass.Lookup
import RecordTemplate.Proofs.Template.Reread
import RecordTemplate.Render.Renderer

namespace RecordTemplate.Render

open RecordTemplate.Template

/-! ## Failures of a lookup -/

namespace Resolver

variable {r : Resolver} {tag : Tag} {record : RecordRef} {row : Option Row}

theorem failsOnly_metadata (source field : String) (id : Value) :
    FailsOnly IsSource (r.metadata source field id) := by
  unfold metadata
  split
  · exact FailsOnly.sequential.pure _
  · exact FailsOnly.sequential.bind (failsOnly_asSource _ _) fun _ => FailsOnly.sequential.pure _

theorem failsOnly_present (field : String) (v : Value) :
    FailsOnly IsSource (r.present field v) := by
  have hseq := FailsOnly.sequential (σ := PassState) (F := IsSource)
  unfold present
  split
  · split
    · refine hseq.bind (.notice _ _) fun _ => ?_
      unfold inlineImage
      split
      · exact hseq.pure _
      · refine hseq.bind (failsOnly_asSource _ _) fun path => ?_
        split
        · exact hseq.pure _
        · exact hseq.pure _
        · refine hseq.bind (failsOnly_asSource _ _) fun content => ?_
          split
          · exact hseq.pure _
          · exact hseq.bind (.notice _ _) fun _ => hseq.pure _
    · exact hseq.pure _
  · exact hseq.pure _
  · exact hseq.pure _

theorem isSource_of_answer {s : PassState} {source field : String} {e : Failure}
    (hkey : record.id.keyFault? = none) (hrow : ∀ v ∈ row, v.entries?.isSome)
    (h : r.answer s source field record row = .error e) : IsSource e := by
  obtain ⟨hs, hc, d, hd, -⟩ := (fails_answer hkey hrow).1 ⟨e, h⟩
  unfold answer sourceValue at h
  simp only [hs, if_false, hkey, hc, hd] at h
  exact isSource_of_sourced h

/-- With a key for the record and a mapping for the row, only a data source can fail. -/
theorem failsOnly_resolveTag (hkey : record.id.keyFault? = none)
    (hrow : ∀ v ∈ row, v.entries?.isSome) : FailsOnly IsSource (r.resolveTag tag record row) := by
  by_cases hl : r.AsksLabel tag
  · unfold AsksLabel at hl
    rw [resolveTag, if_pos hl]
    exact FailsOnly.sequential.bind (failsOnly_metadata _ _ _) fun _ => FailsOnly.sequential.pure _
  · intro s e h
    rw [(outcome_resolveTag hl s).1] at h
    rcases ha : r.answer s tag.source tag.field record row with e' | v
    · rw [ha] at h
      cases h
      exact isSource_of_answer hkey hrow ha
    · rw [ha] at h
      change r.shown tag v = .error e at h
      unfold shown at h
      split at h
      · cases h
      · split at h
        · rcases hp : (outcome (r.present tag.field v.unwrapped) {}).1 with e' | w <;> rw [hp] at h
          · cases h
            exact failsOnly_present _ _ {} e hp
          · cases h
        · cases h

end Resolver

/-! ## Tags -/

namespace Pass

/-- The record of a pass can be a key, and its row, if there is one, is a mapping. -/
structure WellPosed (p : Pass) : Prop where
  key : p.recordId.keyFault? = none
  row : ∀ v ∈ p.row, v.entries?.isSome

variable {p : Pass}

theorem completes_resolveOrFail (h : p.WellPosed) (tag : Tag) :
    FailsOnly (fun _ => False) (p.resolveOrFail tag) := by
  -- the handler answers the failures of sources, and there are no others
  refine .tryCatch (F := IsSource) ?_ fun e he => ?_
  · exact FailsOnly.sequential.bind (Resolver.failsOnly_resolveTag h.key h.row) fun _ =>
      FailsOnly.sequential.pure _
  · cases e <;> first | exact FailsOnly.sequential.pure _ | cases he

theorem completes_renderTag (h : p.WellPosed) (tag : Tag) :
    FailsOnly (fun _ => False) (p.renderTag tag) := by
  have hseq := FailsOnly.sequential (σ := PassState) (F := fun _ : Failure => False)
  have happly (v : Value) : FailsOnly (fun _ => False) (p.applyFilters tag v) := by
    intro s e h
    rw [Pass.outcome_applyFilters] at h
    cases h
  refine hseq.bind (.notice _ _) fun _ => hseq.bind ?_ fun text =>
    hseq.bind (.notice _ _) fun _ => hseq.pure _
  refine hseq.bind (completes_resolveOrFail h tag) fun found => ?_
  split
  · refine hseq.bind (.notice _ _) fun _ => ?_
    split
    · exact hseq.pure _
    · exact hseq.bind (happly _) fun _ => hseq.pure _
  · exact hseq.bind (.notice _ _) fun _ => hseq.pure _

/-! ## A host that changes -/

/-- What a pass uses of its host. -/
structure Host where
  sources : List (String × DataSource)
  attachments : Option AttachmentStore
  filters : Registry

/-- The pass with another host. -/
def hosted (p : Pass) (host : Host) : Pass :=
  { p with
    resolver := { p.resolver with sources := host.sources, attachments := host.attachments }
    filters := host.filters }

/-- A template rendered while the host may change from tag to tag.  The state, which holds all
    that has happened, tells how far the pass is.  One tag asks a source, an attachment or a
    file once at most. -/
def renderAmid (p : Pass) (host : PassState → Host) (text : List Char) : PassM (List Char) :=
  let renderTag (tag : Tag) : PassM (List Char) := do (p.hosted (host (← get))).renderTag tag
  let test (c : List Char) : PassM Bool := do
    notice (.branchTested c)
    Render.evaluate (substituteTags p.keywords renderTag) notice c
  renderTemplate ⟨test, renderTag, notice⟩ p.keywords p.limit text

/-- With a host that stays the same this is the rendering of the template. -/
theorem renderAmid_const (p : Pass) (text : List Char) :
    p.renderAmid (fun _ => ⟨p.resolver.sources, p.resolver.attachments, p.filters⟩) text =
      p.render text := rfl

theorem completes_renderAmid (h : p.WellPosed) (host : PassState → Host) (text : List Char) :
    FailsOnly (fun _ => False) (p.renderAmid host text) := by
  have hseq := FailsOnly.sequential (σ := PassState) (F := fun _ : Failure => False)
  -- whatever host a tag meets, the record and the row are those of the pass
  have htag (tag : Tag) : FailsOnly (fun _ => False)
      (do (p.hosted (host (← get))).renderTag tag : PassM (List Char)) :=
    hseq.bind (fun s e h => by cases h) fun s =>
      completes_renderTag (p := p.hosted (host s)) ⟨h.key, h.row⟩ tag
  refine hseq.renderTemplate (fun c => hseq.bind (.notice _ _) fun _ => ?_) htag
    (fun _ _ => .notice _ _) _ _
  exact hseq.evaluate (hseq.substituteTags htag) (fun _ _ => .notice _ _) c

theorem completes_render (h : p.WellPosed) (text : List Char) (s : PassState) :
    ∃ out t, outcome (p.render text) s = (.ok out, t) := by
  rw [← renderAmid_const]
  exact (completes_renderAmid h _ text).exists_ok s

/-! ## A tag whose lookup raises -/

/-- If a lookup raises, resolving the tag answers the message of the data source. -/
theorem resolveOrFail_of_raises (h : p.WellPosed) {tag : Tag} {s : PassState}
    (hr : Resolver.LookupRaises p.resolver s tag ⟨p.recordId, 0⟩ p.row) :
    ∃ name message lookups t,
      outcome (p.resolveOrFail tag) s = (.ok (.error (Failure.source name message).message), t) ∧
        t.terms = s.terms ∧ t.events = s.events ++ lookups ∧ ∀ e ∈ lookups, e.isLookup = true := by
  have hfails := (Resolver.fails_resolveTag h.key h.row s).2 hr
  have hterms := Resolver.terms_of_fails hfails
  obtain ⟨lookups, hevents, hlookups⟩ := p.resolver.appends_resolveTag tag ⟨p.recordId, 0⟩ p.row s
  obtain ⟨e, he⟩ := hfails
  have hsource := Resolver.failsOnly_resolveTag h.key h.row s e he
  rcases hres : outcome (p.resolver.resolveTag tag ⟨p.recordId, 0⟩ p.row) s with ⟨a, t⟩
  rw [hres] at he hterms hevents
  cases he
  cases e <;> cases hsource
  next name message =>
    refine ⟨name, message, lookups, t, ?_, hterms, hevents, hlookups⟩
    rw [outcome_resolveOrFail, hres]

/-- Such a tag is left out, without its filters, and noticed as one failure of its source. -/
theorem renderTag_of_raises (h : p.WellPosed) {tag : Tag} {s : PassState}
    (hr : Resolver.LookupRaises p.resolver s tag ⟨p.recordId, 0⟩ p.row) :
    ∃ name message lookups t, outcome (p.renderTag tag) s = (.ok [], t) ∧ t.terms = s.terms ∧
      t.events = s.events ++ (.tagFound :: lookups ++
        [.sourceFailed tag.text (Failure.source name message).message, .tagRendered tag []]) ∧
      ∀ e ∈ lookups, e.isLookup = true := by
  have hr' : Resolver.LookupRaises p.resolver { s with events := s.events ++ [.tagFound] } tag
      ⟨p.recordId, 0⟩ p.row := hr.of_events
  obtain ⟨name, message, lookups, t, hres, hterms, hevents, hlookups⟩ :=
    resolveOrFail_of_raises h hr'
  have htext : outcome (p.tagText tag) { s with events := s.events ++ [.tagFound] } =
      (.ok [], { t with events := t.events ++
        [.sourceFailed tag.text (Failure.source name message).message] }) := by
    rw [tagText, outcome_bind_ok _ hres]
    rfl
  have htag := outcome_renderTag p tag s
  rw [htext] at htag
  exact ⟨name, message, lookups, _, htag, hterms, by simp [hevents], hlookups⟩

end Pass
end RecordTemplate.Render

namespace RecordTemplate.Renderer

open RecordTemplate.Template RecordTemplate.Render

/-! ## Templates -/

/-- A template whose pass comes to an output is rendered as that output. -/
theorem render_of_outcome {r : Renderer} {recordId : Value} {row : Option Row} {template : String}
    {out : List Char} {t : PassState} (hne : template ≠ "")
    (h : outcome ((r.pass recordId row).render template.toList) {} = (.ok out, t)) :
    r.render (.text template) recordId row =
      ⟨.text (String.ofList out), t.events, some (Stats.ofEvents t.events), t.terms⟩ := by
  have hstep : outcome (do (r.pass recordId row).render (← templateText (.text template)) :
      PassM (List Char)) {} = (.ok out, t) :=
    outcome_bind_ok (a := template.toList) _ rfl |>.trans h
  rw [render, if_pos (by simpa [Value.isPresent] using hne), runPass]
  unfold outcome at hstep
  rw [hstep]

/-- What is noticed about a template is what its pass has noticed, also when a failure ends it. -/
theorem diagnostics_render {r : Renderer} {recordId : Value} {row : Option Row} {template : String}
    (hne : template ≠ "") :
    (r.render (.text template) recordId row).diagnostics =
      (outcome ((r.pass recordId row).render template.toList) {}).2.events.filterMap
        Event.diagnostic? := by
  rcases h : outcome ((r.pass recordId row).render template.toList) {} with ⟨e | out, t⟩
  · have hstep : outcome (do (r.pass recordId row).render (← templateText (.text template)) :
        PassM (List Char)) {} = (.error e, t) :=
      outcome_bind_ok (a := template.toList) _ rfl |>.trans h
    rw [Rendering.diagnostics, render, if_pos (by simpa [Value.isPresent] using hne), runPass]
    unfold outcome at hstep
    rw [hstep, List.filterMap_append]
    exact List.append_nil _
  · rw [Rendering.diagnostics, render_of_outcome hne h]

/-- A source that raises whatever it is asked. -/
def raisingSource : DataSource :=
  ⟨"raising", fun _ _ => .error (.host "boom"), fun _ _ => .error (.host "boom"), fun _ => .ok []⟩

def raisingRenderer : Renderer :=
  (ofSettings .standard "" none (Pass.ofSources [] .empty).now).registerSource "custom"
    raisingSource

/-- The tag `%custom:x|upper%`. -/
def upperTag : Tag := ⟨"custom", ["x"], [⟨"upper", []⟩], "%custom:x|upper%".toList, 0⟩

end RecordTemplate.Renderer
