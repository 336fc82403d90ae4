/-
  RecordTemplate.Proofs.Pass.Inertness

  Values are inert.  A pass follows the outline of its template (`Pass.follows_render`): with the
  results of its conditions and fallbacks the outline renders the same tags, and its output is
  that of the pieces, in which the text of a tag stands as it is.  So two passes over different
  data differ in the texts of their tags only, unless a condition or a fallback comes out
  differently.
-/

import Mathlib
import RecordTemplate.Proofs.Pass.Completion
import RecordTemplate.Proofs.Pass.Outline

namespace RecordTemplate.Render

open RecordTemplate.Template

variable {α β γ δ : Type}

/-! ## Following an outline -/

/-- The script for a pass in which these events are about to happen. -/
def scriptOf (es : List Event) (conditions fallbacks : List Bool) (before : Rendered) : Script :=
  ⟨es.filterMap Event.conditionResult? ++ conditions,
    es.filterMap Event.fallbackResult? ++ fallbacks, before.map Prod.fst⟩

/-- Whenever `x` comes to an answer after the tags `before` have been rendered, `o` takes from
    the script what has happened and renders the same tags, and the answers are related by `Q`. -/
def Follows (before : Rendered) (Q : Rendered → α → β → Prop) (x : PassM α) (o : OutlineM β) :
    Prop :=
  ∀ s a t, renderedIn s.events = before → outcome x s = (.ok a, t) →
    ∃ es, t.events = s.events ++ es ∧ ∀ conditions fallbacks, ∃ b,
      o.run (scriptOf es conditions fallbacks before) =
          (b, scriptOf [] conditions fallbacks (renderedIn t.events)) ∧
        Q (renderedIn t.events) a b

namespace Follows

variable {before : Rendered} {Q : Rendered → α → β → Prop} {S : Rendered → γ → δ → Prop}

theorem pure {a : α} {b : β} (h : Q before a b) :
    Follows before Q (pure a) (pure b) := by
  rintro s a' t rfl hout
  cases hout
  exact ⟨[], (List.append_nil _).symm, fun _ _ => ⟨b, rfl, h⟩⟩

theorem bind {x : PassM α} {o : OutlineM β} {f : α → PassM γ} {g : β → OutlineM δ}
    (hx : Follows before Q x o)
    (hf : ∀ later a b, Q (before ++ later) a b → Follows (before ++ later) S (f a) (g b)) :
    Follows before S (x >>= f) (o >>= g) := by
  rintro s c u hs hout
  rw [outcome_bind] at hout
  rcases hx' : outcome x s with ⟨e | a, t⟩ <;> rw [hx'] at hout
  · cases hout
  · obtain ⟨es, hes, hrun⟩ := hx s a t hs hx'
    have ht : renderedIn t.events = before ++ renderedIn es := by
      rw [hes, renderedIn_append, hs]
    have hsecond (b) (hb : Q (renderedIn t.events) a b) :
        Follows (renderedIn t.events) S (f a) (g b) :=
      ht ▸ hf _ a b (ht ▸ hb)
    -- how far the second step goes does not depend on the answer of the outline
    obtain ⟨b, -, hb⟩ := hrun [] []
    obtain ⟨es', hes', -⟩ := hsecond b hb t c u rfl hout
    refine ⟨es ++ es', by rw [hes', hes, List.append_assoc], fun conditions fallbacks => ?_⟩
    -- the first step leaves what the second one takes
    obtain ⟨b, hrun, hb⟩ := hrun (es'.filterMap Event.conditionResult? ++ conditions)
      (es'.filterMap Event.fallbackResult? ++ fallbacks)
    obtain ⟨es'', hes'', hrun'⟩ := hsecond b hb t c u rfl hout
    cases List.append_cancel_left (hes'.symm.trans hes'')
    obtain ⟨d, hrun', hd⟩ := hrun' conditions fallbacks
    refine ⟨d, ?_, hd⟩
    have hscript : scriptOf (es ++ es') conditions fallbacks before =
        scriptOf es (es'.filterMap Event.conditionResult? ++ conditions)
          (es'.filterMap Event.fallbackResult? ++ fallbacks) before := by
      simp [scriptOf, List.filterMap_append]
    rw [hscript, StateT.run_bind, hrun]
    exact hrun'

/-- An event that the outline knows nothing of. -/
theorem skip {e : Event} (hc : e.conditionResult? = none) (hf : e.fallbackResult? = none)
    (hr : e.rendered? = none) {x : PassM α} {o : OutlineM β} (hx : Follows before Q x o) :
    Follows before Q (notice e >>= fun _ => x) o := by
  rintro s a t rfl hout
  rw [outcome_bind_ok _ (outcome_notice e s)] at hout
  obtain ⟨es, hes, hrun⟩ := hx _ a t (by simp [renderedIn, List.filterMap_append, hr]) hout
  refine ⟨e :: es, by simp [hes], fun conditions fallbacks => ?_⟩
  have hscript (before : Rendered) : scriptOf (e :: es) conditions fallbacks before =
      scriptOf es conditions fallbacks before := by
    simp [scriptOf, hc, hf]
  rw [hscript]
  exact hrun conditions fallbacks

/-- An event that is the result of a condition. -/
theorem condition {e : Event} {holds : Bool} (hc : e.conditionResult? = some holds)
    (hf : e.fallbackResult? = none) (hr : e.rendered? = none) :
    Follows before (fun _ => Eq) (notice e >>= fun _ => Pure.pure holds) nextCondition := by
  rintro s a t rfl hout
  rw [outcome_bind_ok _ (outcome_notice e s)] at hout
  cases hout
  refine ⟨[e], rfl, fun conditions fallbacks => ⟨holds, ?_, rfl⟩⟩
  simp [scriptOf, nextCondition, renderedIn, List.filterMap_append, hc, hf, hr, StateT.run]

/-- An event that tells whether the tag of a fallback came out empty. -/
theorem fallback (isEmpty : Bool) :
    Follows before (fun _ _ b => b = isEmpty) (notice (.fallbackTried isEmpty)) nextFallback := by
  rintro s a t rfl hout
  cases hout
  have hc : (Event.fallbackTried isEmpty).conditionResult? = none := rfl
  have hf : (Event.fallbackTried isEmpty).fallbackResult? = some isEmpty := rfl
  have hr : (Event.fallbackTried isEmpty).rendered? = none := rfl
  refine ⟨[.fallbackTried isEmpty], rfl, fun conditions fallbacks => ⟨isEmpty, ?_, rfl⟩⟩
  simp [scriptOf, nextFallback, renderedIn, List.filterMap_append, hc, hf, hr, StateT.run]

end Follows

/-! ## Texts and pieces -/

/-- The pieces make up the text, and all their tags have been rendered. -/
structure Fills (rendered : Rendered) (text : List Char) (pieces : List Piece) : Prop where
  text : fill rendered pieces = text
  tags : ∀ piece ∈ pieces, piece.IsOf rendered

namespace Fills

variable {rendered : Rendered} {s s' : List Char} {pieces more : List Piece}

theorem literal : Fills rendered s [.literal s] :=
  ⟨List.append_nil s, fun piece h => by cases List.mem_singleton.1 h; trivial⟩

/-- The piece that stands for the tag rendered last. -/
theorem tag (before : Rendered) (tag : Tag) (s : List Char) :
    Fills (before ++ [(tag, s)]) s [.tag before.length tag.text] where
  text := by simp [fill, Piece.fill]
  tags piece h := by
    cases List.mem_singleton.1 h
    exact ⟨(tag, s), by simp, rfl⟩

theorem append (h : Fills rendered s pieces) (h' : Fills rendered s' more) :
    Fills rendered (s ++ s') (pieces ++ more) where
  text := by rw [fill, List.flatMap_append, ← h.text, ← h'.text]; rfl
  tags piece hp := (List.mem_append.1 hp).elim (h.tags piece) (h'.tags piece)

/-- Tags rendered later do not matter. -/
theorem later (h : Fills rendered s pieces) (more : Rendered) :
    Fills (rendered ++ more) s pieces where
  text := by
    rw [← h.text, fill, fill, List.flatMap_def, List.flatMap_def,
      List.map_congr_left fun piece hp => Piece.fill_append (h.tags piece hp) more]
  tags piece hp := (h.tags piece hp).append more

end Fills

namespace Follows

variable {before : Rendered}

/-- Rendering a tag, seen from the outline: one more tag, and the piece that stands for it. -/
theorem renderTag (p : Pass) (tag : Tag) :
    Follows before Fills (p.renderTag tag) (outlineTag tag) := by
  rintro s text t rfl hout
  have hrendered := p.renderedIn_renderTag hout
  obtain ⟨es, hes, hkind⟩ := p.events_renderTag hout
  have hc : es.filterMap Event.conditionResult? = [] :=
    List.filterMap_eq_nil_iff.2 fun e he => Event.conditionResult?_of_isOfTag (hkind e he)
  have hf : es.filterMap Event.fallbackResult? = [] :=
    List.filterMap_eq_nil_iff.2 fun e he => Event.fallbackResult?_of_isOfTag (hkind e he)
  refine ⟨_, hes, fun conditions fallbacks =>
    ⟨[.tag (renderedIn s.events).length tag.text], ?_, ?_⟩⟩
  · simp only [scriptOf, List.filterMap_append, hc, hf, hrendered, outlineTag, StateT.run,
      List.length_map, List.map_append, List.map_cons, List.map_nil]
    rfl
  · rw [hrendered]
    exact .tag _ tag text

theorem replaceFound {α : Type} {replace : Found α → PassM (List Char)}
    {outline : Found α → OutlineM (List Piece)} {s : Scan α}
    (h : ∀ before, ∀ f ∈ s.found, Follows before Fills (replace f) (outline f)) :
    Follows before Fills (replaceFound replace s) (outlineFound outline s) := by
  have hmap (before : Rendered) : Follows before
      (fun rendered texts pieces => Fills rendered texts.flatten pieces.flatten)
      (s.found.mapM fun f => do return f.lead ++ (← replace f))
      (s.found.mapM fun f => do return .literal f.lead :: (← outline f)) := by
    -- the tags of earlier constructs are among those before the next one
    generalize s.found = found at h
    induction found generalizing before with
    | nil => exact .pure ⟨rfl, by simp⟩
    | cons f found ih =>
      rw [List.mapM_cons, List.mapM_cons, bind_assoc, bind_assoc]
      refine (h before f (List.mem_cons_self ..)).bind fun later text pieces htext => ?_
      rw [pure_bind, pure_bind]
      refine (ih _ fun before f hf => h before f (List.mem_cons_of_mem _ hf)).bind
        fun later' texts more hmore => .pure ?_
      exact (Fills.literal.append (htext.later later')).append hmore
  refine (hmap before).bind fun later texts pieces htexts => .pure ?_
  exact htexts.append .literal

variable (p : Pass)

theorem renderTags (text : List Char) :
    Follows before Fills (p.renderTags text) (outlineTags p.keywords text) :=
  replaceFound fun _ _ _ => renderTag p _

/-! ## Blocks -/

theorem test (c : List Char) :
    Follows before (fun _ => Eq) (p.testBranch c) (outlineTest p.keywords c) := by
  refine skip rfl rfl rfl ?_
  unfold Pass.evaluate Render.evaluate outlineTest
  cases Condition.parse? c with
  | none => exact condition rfl rfl rfl
  | some c => exact (renderTags p c.tagText).bind fun later left _ _ => condition rfl rfl rfl

theorem chooseBody (bs : List Branch) :
    Follows before (fun _ => Eq) (chooseBody p.testBranch bs)
      (chooseBody (outlineTest p.keywords) bs) := by
  induction bs generalizing before with
  | nil => exact .pure rfl
  | cons b bs ih =>
    unfold Render.chooseBody
    cases b.condition with
    | none => exact .pure rfl
    | some c =>
      refine (test p c).bind fun later holds _ h => ?_
      subst h
      cases holds with
      | true => exact .pure rfl
      | false => exact ih

theorem reduce (limit : Nat) (text : List Char) :
    Follows before (fun _ => Eq) (reduce p.testBranch limit text)
      (reduce (outlineTest p.keywords) limit text) := by
  induction limit generalizing text before with
  | zero =>
    unfold Render.reduce
    cases Block.find? text <;> exact .pure rfl
  | succ limit ih =>
    unfold Render.reduce
    cases Block.find? text with
    | none => exact .pure rfl
    | some b =>
      refine (chooseBody p b.branches).bind fun later body _ h => ?_
      subst h
      exact ih _

theorem reduceBlocks (limit : Int) (text : List Char) :
    Follows before (fun _ => Eq) (reduceBlocks p.testBranch notice limit text)
      (reduceBlocks (outlineTest p.keywords) (fun _ => Pure.pure ()) limit text) := by
  refine (reduce p limit.toNat text).bind fun later r _ h => ?_
  subst h
  obtain ⟨reduced, done⟩ := r
  cases done with
  | true =>
    dsimp only
    cases strayMarker? reduced with
    | none => exact .pure rfl
    | some marker => exact skip rfl rfl rfl (.pure rfl)
  | false => exact skip rfl rfl rfl (.pure rfl)

/-! ## Templates -/

theorem renderNested (limit : Int) (depth : Nat) (text : List Char) :
    Follows before Fills (renderNested p.handlers p.keywords limit depth text)
      (outlineNested p.keywords limit depth text) := by
  induction depth generalizing text before with
  | zero => exact .pure .literal
  | succ depth ih =>
    refine (reduceBlocks p limit text).bind fun later reduced _ h => ?_
    subst h
    refine replaceFound fun before f _ => ?_
    obtain ⟨lead, item, own⟩ := f
    cases item with
    | marker m => exact renderTags p own
    | tag form => exact renderTag p _
    | fallback form =>
      refine (ih form.tagText).bind fun later value pieces hvalue => ?_
      refine (fallback value.isEmpty).bind fun later' _ isEmpty h => ?_
      subst h
      -- the text of the tag is dropped with its pieces, or both are kept
      cases value.isEmpty with
      | true => exact ih form.body
      | false => exact .pure (hvalue.later later')

end Follows

theorem source_sublist {piece : Piece} {pieces : List Piece} (h : piece ∈ pieces) :
    piece.source.Sublist (sources pieces) :=
  List.sublist_flatten_of_mem (List.mem_map_of_mem h)

/-- A pass follows the outline of its template. -/
theorem Pass.follows_render (p : Pass) (text : List Char) :
    Follows [] Fills (p.render text)
      (outlineNested p.keywords p.limit (text.length + 1) text) :=
  Follows.renderNested p p.limit (text.length + 1) text

/-- The outline of a finished pass. -/
theorem Pass.outline_of_render {p : Pass} {text out : List Char} {t : PassState}
    (h : outcome (p.render text) {} = (.ok out, t)) :
    ∃ pieces, (outlineNested p.keywords p.limit (text.length + 1) text).run
        ⟨t.events.filterMap Event.conditionResult?, t.events.filterMap Event.fallbackResult?, []⟩ =
          (pieces, ⟨[], [], (renderedIn t.events).map Prod.fst⟩) ∧
      Fills (renderedIn t.events) out pieces := by
  obtain ⟨es, hes, hrun⟩ := p.follows_render text {} out t rfl h
  obtain ⟨pieces, hrun, hfills⟩ := hrun [] []
  have hes : t.events = es := hes
  simp only [scriptOf, List.append_nil, List.filterMap_nil, List.map_nil] at hrun
  exact ⟨pieces, hes ▸ hrun, hfills⟩

/-- A pass in which every custom field has the same text. -/
def showing (value : String) : Pass := .ofSources [sourceOf "custom" (.text value)] .empty

theorem wellPosed_showing (value : String) : (showing value).WellPosed :=
  ⟨rfl, fun _ h => by cases h⟩

/-- A tag, a malformed condition and a fallback. -/
def mixedTemplate : List Char :=
  "%custom:a%[if:x]y[/if]%custom:b%[fallback]none[/fallback]".toList

/-- The output of a pass, with the results of its conditions and fallbacks. -/
def resultsOf (p : Pass) (text : List Char) : Except Failure (List Char) × List Bool × List Bool :=
  (fun o : Except Failure (List Char) × PassState =>
    (o.1, o.2.events.filterMap Event.conditionResult?,
      o.2.events.filterMap Event.fallbackResult?)) (outcome (p.render text) {})

end RecordTemplate.Render
