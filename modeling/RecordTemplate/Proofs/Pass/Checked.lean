/-
  RecordTemplate.Proofs.Pass.Checked

  Templates that passed the check.  If every bracket between the markers of a template belongs to
  a fallback mark, and the check finds no error, then no marker is left after its blocks have been
  reduced, whichever branches are chosen, and no diagnostic about markers or conditions is made
  (`Renderer.render_checked`).

  The reduction keeps the text balanced and takes eleven characters off it with every step, which
  bounds the steps.  What is rendered afterwards has no markers, and neither have the pieces of
  it that fallbacks render.
-/

import RecordTemplate.Proofs.Conditional.Soundness
import RecordTemplate.Proofs.Pass.Nesting
import RecordTemplate.Proofs.Pass.Plain

namespace RecordTemplate.Render

open RecordTemplate.Template

/-! ## Events and answers together -/

/-- All that a step appends are events of `E`, and its answers are of `Q`. -/
structure Delivers {α : Type} (E : Event → Prop) (Q : α → Prop) (x : PassM α) : Prop where
  appends : Appends E x
  answers : Answers Q x

namespace Delivers

variable {α : Type} {E : Event → Prop}

theorem of_appends {x : PassM α} (h : Appends E x) : Delivers E (fun _ => True) x :=
  ⟨h, fun _ _ _ => trivial⟩

theorem following : Following (m := PassM) fun _ => Delivers E where
  pure {_ _ a} h := ⟨Appends.sequential.pure a, Answers.answering.pure h⟩
  bind {_ _ _ _ x f} hx hf := by
    refine ⟨fun s => ?_, Answers.answering.bind hx.answers fun a ha => (hf a ha).answers⟩
    obtain ⟨es, hes, hE⟩ := hx.appends s
    rw [outcome_bind]
    rcases hs : outcome x s with ⟨e | a, t⟩ <;> rw [hs] at hes
    · exact ⟨es, hes, hE⟩
    · -- the second step starts from an answer of the first one
      obtain ⟨es', hes', hE'⟩ := (hf a (hx.answers s a (by rw [hs]))).appends t
      refine ⟨es ++ es', by rw [hes', hes, List.append_assoc], fun e he => ?_⟩
      exact (List.mem_append.1 he).elim (hE e) (hE' e)
  mono hx h := ⟨hx.appends, fun s a ha => h a (hx.answers s a ha)⟩

end Delivers

/-! ## Texts without markers -/

section Absent

variable {m : Type → Type} [Monad m] [LawfulMonad m] {P : ∀ α : Type, m α → Prop} {ks : Keywords}
  {text : List Char}

/-- Of the fallbacks of a text only those need to be looked at whose parts are pieces of it. -/
theorem Sequential.substitute_of_infix (hP : Sequential P) {renderTag : Tag → m (List Char)}
    {renderFallback : FallbackForm → m (List Char)} (hr : ∀ t, P _ (renderTag t))
    (hf : ∀ form : FallbackForm, form.tagText <:+: text → form.body <:+: text →
      P _ (renderFallback form)) :
    P _ (Render.substitute ks renderTag renderFallback text) := by
  refine hP.replaceFound fun f hmem => ?_
  obtain ⟨lead, item, own⟩ := f
  cases item with
  | tag form => exact hr _
  | marker mk => exact hP.substituteTags hr _
  | fallback form =>
    have hown : own <:+: text := Recogniser.infix_of_mem_found hmem
    have htext : own = form.tagText ++ (FallbackForm.openMark ++
      (form.body ++ FallbackForm.closeMark)) := FallbackForm.text_of_mem_found hmem rfl
    have htag : form.tagText <:+: own := ⟨[], _, by rw [htext, List.nil_append]⟩
    have hbody : form.body <:+: own :=
      ⟨form.tagText ++ FallbackForm.openMark, FallbackForm.closeMark, by
        rw [htext]
        simp only [List.append_assoc]⟩
    exact hf form (htag.trans hown) (hbody.trans hown)

variable {h : Handlers m}

/-- Without markers no condition is tested, and of the events about the template only those of
    fallbacks are noticed. -/
theorem Sequential.renderNested_of_absent (hP : Sequential P) (hr : ∀ t, P _ (h.renderTag t))
    (hn : ∀ isEmpty, P _ (h.notice (.fallbackTried isEmpty))) (limit : Int) (depth : Nat)
    (hnone : markerRule.Absent text) : P _ (Render.renderNested h ks limit depth text) := by
  induction depth generalizing text with
  | zero => exact hP.pure _
  | succ depth ih =>
    rw [Render.renderNested, reduceBlocks_of_absent hnone, pure_bind]
    refine hP.substitute_of_infix hr fun form htag hbody => ?_
    refine hP.bind (ih (hnone.of_infix persists_markerRule htag)) fun value =>
      hP.bind (hn _) fun _ => ?_
    split
    · exact ih (hnone.of_infix persists_markerRule hbody)
    · exact hP.pure _

end Absent

/-! ## Templates -/

/-- Whether an event is about a marker or a condition that is wrong. -/
def Event.isMarkerFault : Event → Bool
  | malformedCondition _ | unbalancedMarker _ => true
  | _ => false

/-- The codes of these events belong to no others. -/
theorem Event.code_ne_of_isMarkerFault {e : Event} {d : Diagnostic} (h : e.isMarkerFault = false)
    (hd : e.diagnostic? = some d) :
    d.code ≠ "unbalanced_block" ∧ d.code ≠ "malformed_condition" := by
  cases e <;> cases h <;> cases hd
  case filterSkipped fault => cases fault <;> simp [ChainFault.diagnostic]
  all_goals simp

/-- A template that is balanced is rendered without such events, if testing conditions that can be
    read and rendering tags makes none. -/
theorem appends_renderTemplate_of_closes {h : Handlers PassM} {ks : Keywords} {limit : Int}
    {text : List Char} (hclosed : Closes 0 text) (hlimit : (text.length : Int) ≤ 11 * limit)
    (ht : ∀ c, (Condition.parse? c).isSome = true →
      Appends (fun e => e.isMarkerFault = false) (h.test c))
    (hr : ∀ t, Appends (fun e => e.isMarkerFault = false) (h.renderTag t))
    (hn : ∀ isEmpty, Appends (fun e => e.isMarkerFault = false)
      (h.notice (.fallbackTried isEmpty))) :
    Appends (fun e => e.isMarkerFault = false) (renderTemplate h ks limit text) := by
  have hseq := Appends.sequential (E := fun e => e.isMarkerFault = false)
  rw [renderTemplate, renderNested]
  have hreduced := Delivers.following.reduceBlocks_of_closes (fun c hc => .of_appends (ht c hc))
    h.notice hclosed hlimit
  refine (Delivers.following.bind hreduced fun reduced hquiet => .of_appends ?_).appends
  -- the pieces of what is left have no markers either
  refine hseq.substitute_of_infix hr fun form htag hbody => ?_
  refine hseq.bind (hseq.renderNested_of_absent hr hn _ _
    (hquiet.absent.of_infix persists_markerRule htag)) fun value => hseq.bind (hn _) fun _ => ?_
  split
  · exact hseq.renderNested_of_absent hr hn _ _
      (hquiet.absent.of_infix persists_markerRule hbody)
  · exact hseq.pure _

namespace Pass

variable (p : Pass)

theorem appends_renderTag_isMarkerFault (tag : Tag) :
    Appends (fun e => e.isMarkerFault = false) (p.renderTag tag) := by
  refine (p.appends_renderTag tag).mono fun e he => ?_
  rcases he with he | he
  · cases e <;> first | rfl | cases he
  · cases e <;> first | rfl | cases he

theorem appends_testBranch_of_parse? {c : List Char} (hc : (Condition.parse? c).isSome = true) :
    Appends (fun e => e.isMarkerFault = false) (p.testBranch c) := by
  have hseq := Appends.sequential (E := fun e => e.isMarkerFault = false)
  obtain ⟨condition, hparse⟩ := Option.isSome_iff_exists.1 hc
  refine hseq.bind (.notice rfl) fun _ => ?_
  rw [evaluate, Render.evaluate, hparse]
  refine hseq.bind (hseq.substituteTags p.appends_renderTag_isMarkerFault _) fun left => ?_
  exact hseq.bind (.notice rfl) fun _ => hseq.pure _

theorem appends_render_of_closes {text : List Char} (hclosed : Closes 0 text)
    (hlimit : (text.length : Int) ≤ 11 * p.limit) :
    Appends (fun e => e.isMarkerFault = false) (p.render text) :=
  appends_renderTemplate_of_closes hclosed hlimit (fun _ => p.appends_testBranch_of_parse?)
    p.appends_renderTag_isMarkerFault fun _ => .notice rfl

end Pass
end RecordTemplate.Render

namespace RecordTemplate.Renderer

open RecordTemplate.Template RecordTemplate.Render

/-- A check that finds no error in a template speaks for its blocks.

    Every bracket between the markers of the template begins a mark of a fallback, and the limit
    allows one reduction for eleven characters of it.  Then no marker is left after the blocks
    have been reduced, whatever conditions come to, and rendering the template for any record
    and row makes no diagnostic about a marker that is left or a condition that cannot be read. -/
theorem render_checked (r : Renderer) (template : String)
    (hbrackets : ∀ piece ∈ betweenMarkers template.toList, OnlyFallbackMarks piece)
    (hvalid : (Report.ofTemplate r.keywords template.toList).isValid = true)
    (hlimit : (template.toList.length : Int) ≤ 11 * r.limit) :
    (∀ (test : List Char → PassM Bool) (noticed : Event → PassM Unit) s reduced t,
      outcome (reduceBlocks test noticed r.limit template.toList) s = (.ok reduced, t) →
        (markerRule.scan reduced).found = []) ∧
    ∀ recordId row, ∀ d ∈ (r.render (.text template) recordId row).diagnostics,
      d.code ≠ "unbalanced_block" ∧ d.code ≠ "malformed_condition" := by
  have hfaults : markerFaults template.toList = [] :=
    List.map_eq_nil_iff.1 (List.isEmpty_iff.1 hvalid)
  have hclosed : Closes 0 template.toList :=
    closes_of_markerFaults (fun piece h => (hbrackets piece h).quiet) hfaults
  refine ⟨fun test noticed s reduced t hout => ?_, fun recordId row d hd => ?_⟩
  · have hquiet := Answers.answering.following.reduceBlocks_of_closes
      (fun c _ => Answers.answering.any (test c)) noticed hclosed hlimit
    exact Recogniser.absent_iff.1 (hquiet s reduced (by rw [hout])).absent
  · by_cases hne : template = ""
    · subst hne
      exact absurd hd List.not_mem_nil
    · rw [diagnostics_render hne] at hd
      obtain ⟨e, he, hde⟩ := List.mem_filterMap.1 hd
      have happends := (r.pass recordId row).appends_render_of_closes hclosed hlimit {}
      obtain ⟨es, hes, hkind⟩ := happends
      rw [hes] at he
      exact Event.code_ne_of_isMarkerFault (hkind e he) hde

/-- Two blocks, one inside the other, and a fallback. -/
def nestedTemplate : String :=
  "[if:%custom:x% == a]A[else][if:%row:y% > 1]%custom:x%[/if]C[/if]%row:y%[fallback]no[/fallback]"

theorem render_checked_nested :
    (∀ piece ∈ betweenMarkers nestedTemplate.toList, OnlyFallbackMarks piece) ∧
    (Report.ofTemplate raisingRenderer.keywords nestedTemplate.toList).isValid = true ∧
    (nestedTemplate.toList.length : Int) ≤ 11 * raisingRenderer.limit ∧
    ∀ d ∈ (raisingRenderer.render (.text nestedTemplate) (.int 1) none).diagnostics,
      d.code ≠ "unbalanced_block" ∧ d.code ≠ "malformed_condition" := by
  have hbrackets : ∀ piece ∈ betweenMarkers nestedTemplate.toList, OnlyFallbackMarks piece := by
    decide +kernel
  have hvalid : (Report.ofTemplate raisingRenderer.keywords nestedTemplate.toList).isValid = true := by
    decide +kernel
  have hlimit : (nestedTemplate.toList.length : Int) ≤ 11 * raisingRenderer.limit := by decide
  exact ⟨hbrackets, hvalid, hlimit,
    (render_checked raisingRenderer nestedTemplate hbrackets hvalid hlimit).2 (.int 1) none⟩

end RecordTemplate.Renderer
