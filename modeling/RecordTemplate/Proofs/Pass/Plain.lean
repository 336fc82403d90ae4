/-
  RecordTemplate.Proofs.Pass.Plain

  Plain templates.  A template without tags and without blocks that are closed comes out as it
  is, whatever brackets and percent signs stand in it, and nothing is asked of its host on the
  way: no condition is tested and no tag is rendered (`renderTemplate_of_plain`).  At most its
  first marker that should have belonged to a block is noticed.
-/

import Mathlib
import RecordTemplate.Proofs.Pass.Completion
import RecordTemplate.Proofs.Template.Absence
import RecordTemplate.Proofs.Template.Split

namespace RecordTemplate.Render

open RecordTemplate.Template

variable {m : Type → Type} [Monad m] [LawfulMonad m] {text : List Char}

/-! ## Texts without blocks -/

theorem reduceBlocks_of_absent (h : markerRule.Absent text) (test : List Char → m Bool)
    (notice : Event → m Unit) (limit : Int) :
    reduceBlocks test notice limit text = pure text := by
  rw [reduceBlocks_of_find?_eq_none (Block.find?_of_absent h), noticeStray,
    strayMarker?_of_absent h]
  exact pure_bind () _

/-! ## Plain templates -/

/-- A plain template is the text that it is rendered as.  Of the handlers only the one for
    events is used. -/
theorem renderTemplate_of_plain {ks : Keywords} (htags : (tagRule ks).Absent text)
    (hblocks : Block.find? text = none) (h : Handlers m) (limit : Int) :
    renderTemplate h ks limit text = noticeStray h.notice text >>= fun _ => pure text := by
  rw [renderTemplate, renderNested, reduceBlocks_of_find?_eq_none hblocks, bind_assoc]
  refine bind_congr fun _ => ?_
  rw [pure_bind, substitute_of_absent htags]

theorem outcome_noticeStray (text : List Char) (s : PassState) :
    outcome (noticeStray notice text) s = (.ok (), { s with
      events := s.events ++ (strayMarker? text).toList.map .unbalancedMarker }) := by
  unfold noticeStray
  cases strayMarker? text with
  | none => simp
  | some marker => rfl

theorem Pass.outcome_render_of_plain {p : Pass} (htags : (tagRule p.keywords).Absent text)
    (hblocks : Block.find? text = none) (s : PassState) :
    outcome (p.render text) s = (.ok text, { s with
      events := s.events ++ (strayMarker? text).toList.map .unbalancedMarker }) := by
  rw [render, renderTemplate_of_plain htags hblocks]
  exact outcome_bind_ok _ (outcome_noticeStray text s)

end RecordTemplate.Render

namespace RecordTemplate.Renderer

open RecordTemplate.Template RecordTemplate.Render

/-- Plain templates come out as they are.

    If no tag is found in a template and no block of it is closed, then rendering it uses no
    handler of conditions or of tags, so nothing is asked of a data source.  Its output is the
    template, for every record and row and whatever the sources, filters and limits are; all
    that happens is that a marker which should have belonged to a block is noticed. -/
theorem render_plain (r : Renderer) (template : String)
    (htags : r.tagTexts (.text template) = .ok []) (hblocks : Block.find? template.toList = none) :
    (∀ (m : Type → Type) [Monad m] [LawfulMonad m] (h : Handlers m) (limit : Int),
      renderTemplate h r.keywords limit template.toList =
        noticeStray h.notice template.toList >>= fun _ => pure template.toList) ∧
    ∀ recordId row, (r.render (.text template) recordId row).output = .text template ∧
      (r.render (.text template) recordId row).terms = [] ∧
      (r.render (.text template) recordId row).events =
        (strayMarker? template.toList).toList.map .unbalancedMarker ∧
      (r.render (.text template) recordId row).events.filterMap Event.call? = [] := by
  have hfound : ((tagRule r.keywords).scan template.toList).found = [] :=
    List.map_eq_nil_iff.1 (Except.ok.inj htags)
  have hnone := Recogniser.absent_iff.2 hfound
  have hcalls : ((strayMarker? template.toList).toList.map Event.unbalancedMarker).filterMap
      Event.call? = [] := by
    cases strayMarker? template.toList <;> rfl
  refine ⟨fun m _ _ h limit => renderTemplate_of_plain hnone hblocks h limit, fun recordId row => ?_⟩
  by_cases hne : template = ""
  · subst hne
    have hstray : strayMarker? "".toList = none :=
      strayMarker?_of_absent (Recogniser.Quiet.absent .nil)
    rw [hstray]
    exact ⟨rfl, rfl, rfl, rfl⟩
  · have hout := Pass.outcome_render_of_plain (p := r.pass recordId row) hnone hblocks {}
    rw [render_of_outcome hne hout, String.ofList_toList]
    exact ⟨rfl, rfl, rfl, hcalls⟩

/-- Brackets and percent signs that belong to no tag and no block, and a tag of no source. -/
def loneMarks : String :=
  "50% [else][/if] [fallback]%gone:x|upper%[/fallback] %[if:%custom:] [/fallback][elseif:x]"

theorem render_plain_loneMarks :
    raisingRenderer.tagTexts (.text loneMarks) = .ok [] ∧ Block.find? loneMarks.toList = none ∧
      (raisingRenderer.render (.text loneMarks) (.int 1) none).output = .text loneMarks ∧
      (raisingRenderer.render (.text loneMarks) (.int 1) none).diagnostics.map Diagnostic.code =
        ["unbalanced_block"] := by
  have hkeywords : raisingRenderer.keywords =
      ⟨["custom".toList, "native".toList, "row".toList]⟩ := by cbv
  have htexts : Template.tagTexts raisingRenderer.keywords loneMarks.toList = [] := by
    rw [hkeywords]
    decide +kernel
  have htags : raisingRenderer.tagTexts (.text loneMarks) = .ok [] := congrArg Except.ok htexts
  have hblocks : Block.find? loneMarks.toList = none := by decide +kernel
  have hstray : strayMarker? loneMarks.toList = some "[/if]".toList := by decide +kernel
  obtain ⟨houtput, -, hevents, -⟩ :=
    (render_plain raisingRenderer loneMarks htags hblocks).2 (.int 1) none
  refine ⟨htags, hblocks, houtput, ?_⟩
  rw [Rendering.diagnostics, hevents, hstray]
  rfl

end RecordTemplate.Renderer
