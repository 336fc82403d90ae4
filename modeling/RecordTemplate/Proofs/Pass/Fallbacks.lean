/-
  RecordTemplate.Proofs.Pass.Fallbacks

  Fallbacks of a text without blocks.

  The parts of a fallback are rendered like templates, so the reduction of blocks and the search
  for fallbacks begin again for each of them.  In a text without blocks they have nothing to do: the
  body stands behind the bracket that ends the opening mark, and so it has no block either
  (`find?_body`); and it ends at the first closing mark, so there is no fallback in it
  (`fallbackForms_eq_nil`).  A tag without brackets is rendered as the tag that it is
  (`render_tag_of_not_mem`).

  In any text the parts of a fallback are shorter than the text, and rendering asks for these parts
  only (`renderBy_congr`), so it comes to an end.
-/

import Mathlib
import RecordTemplate.Proofs.Conditional.Blocks
import RecordTemplate.Proofs.Conditional.Fragments
import RecordTemplate.Proofs.Conditional.NormalForm
import RecordTemplate.Proofs.Template.Absence
import RecordTemplate.Proofs.Template.Agreement

namespace RecordTemplate.Template

variable {ks : Keywords} {names : List String} {text : List Char}

/-! ## Fallbacks that are found -/

def Construct.fallback? : Construct → Option FallbackForm
  | .fallback form => some form
  | _ => none

/-- The fallbacks of a text. -/
def fallbackForms (ks : Keywords) (text : List Char) : List FallbackForm :=
  ((constructRule ks).scan text).found.filterMap fun f => f.item.fallback?

theorem mem_fallbackForms {form : FallbackForm} :
    form ∈ fallbackForms ks text ↔
      ∃ f ∈ ((constructRule ks).scan text).found, f.item = .fallback form := by
  have hitem (c : Construct) : c.fallback? = some form ↔ c = .fallback form := by
    cases c <;> simp [Construct.fallback?]
  simp only [fallbackForms, List.mem_filterMap, hitem]

/-- A token that is no text is something that the scan has found. -/
theorem Token.found_of_mem_ofScan {α : Type} {kind : α → TokenKind} {withText : Bool}
    {tail : List Char} {p : Nat} {found : List (Found α)} {t : Token}
    (h : t ∈ ofScan kind withText tail p found) (hkind : t.kind ≠ .text) :
    ∃ f ∈ found, kind f.item = t.kind ∧ f.text = t.value := by
  have htext {s : List Char} {q : Nat} (h : t ∈ ofText withText s q) : t.kind = .text := by
    unfold ofText at h
    split at h
    · rw [List.mem_singleton.1 h]
    · cases h
  induction found generalizing p with
  | nil => exact absurd (htext h) hkind
  | cons f found ih =>
    rcases List.mem_append.1 h with h | h
    · exact absurd (htext h) hkind
    rcases List.mem_cons.1 h with rfl | h
    · exact ⟨f, List.mem_cons_self, rfl, rfl⟩
    · obtain ⟨f', hf', hfound⟩ := ih h
      exact ⟨f', List.mem_cons_of_mem f hf', hfound⟩

/-- A fallback token is a fallback that the scan has found. -/
theorem found_of_mem_tokens {t : Token} (h : t ∈ tokens ks text) (hkind : t.kind = .fallback) :
    ∃ f ∈ ((constructRule ks).scan text).found, ∃ form,
      f.item = .fallback form ∧ f.text = t.value := by
  obtain ⟨f, hf, hitem, hvalue⟩ := Token.found_of_mem_ofScan h (by simp [hkind])
  refine ⟨f, hf, ?_⟩
  rw [hkind] at hitem
  cases hconstruct : f.item with
  | fallback form => exact ⟨form, rfl, hvalue⟩
  | marker m => simp [hconstruct, TokenKind.ofConstruct] at hitem
  | tag form => simp [hconstruct, TokenKind.ofConstruct] at hitem

namespace FallbackForm

variable {form : FallbackForm}

/-- The body of a fallback has no closing mark. -/
theorem closeMark_not_infix_body (h : form ∈ fallbackForms ks text) :
    ¬ closeMark <:+: form.body := by
  obtain ⟨f, hf, hitem⟩ := mem_fallbackForms.1 h
  obtain ⟨t, rest, hrun⟩ := run_of_mem_found hf hitem
  obtain ⟨tag, -, hof⟩ := List.exists_of_findSome?_eq_some hrun
  obtain ⟨u, body, -, hcut, hform, -⟩ := ofTag?_eq_some_iff.1 hof
  cases hform
  exact hcut.not_infix (by decide)

/-- The tag of a fallback is a tag. -/
theorem isTag_tagText (hks : ks.Spells names) (h : form ∈ fallbackForms ks text) :
    IsTag names form.tagText := by
  obtain ⟨f, hf, hitem⟩ := mem_fallbackForms.1 h
  obtain ⟨t, rest, hrun⟩ := run_of_mem_found hf hitem
  obtain ⟨u, -, body, htag, -, -, hform, -⟩ := parts_of_run hks hrun
  cases hform
  exact htag

/-- In a text without blocks the body of a fallback has no block. -/
theorem find?_body (h : form ∈ fallbackForms ks text) (hnone : Block.find? text = none) :
    Block.find? form.body = none := by
  obtain ⟨f, hf, hitem⟩ := mem_fallbackForms.1 h
  obtain ⟨before, after, rfl⟩ := Recogniser.infix_of_mem_found hf
  -- the opening mark ends with a bracket, and the body follows it
  have hmark : openMark = openMark.dropLast ++ [']'] := rfl
  refine Block.find?_fragment (w := before ++ form.tagText ++ openMark.dropLast)
    (v := closeMark ++ after) ?_
  rw [text_of_mem_found hf hitem, hmark] at hnone
  simpa only [List.append_assoc] using hnone

end FallbackForm

/-- Without a closing mark there is no fallback. -/
theorem fallbackForms_eq_nil (h : ¬ FallbackForm.closeMark <:+: text) :
    fallbackForms ks text = [] := by
  rw [List.eq_nil_iff_forall_not_mem]
  intro form hform
  obtain ⟨f, hf, hitem⟩ := mem_fallbackForms.1 hform
  have hclose : FallbackForm.closeMark <:+: f.text := by
    rw [FallbackForm.text_of_mem_found hf hitem]
    exact ⟨form.tagText ++ (FallbackForm.openMark ++ form.body), [], by simp⟩
  exact h (hclose.trans (Recogniser.infix_of_mem_found hf))

theorem fallbackForms_body {form : FallbackForm} (h : form ∈ fallbackForms ks text) :
    fallbackForms ks form.body = [] :=
  fallbackForms_eq_nil (FallbackForm.closeMark_not_infix_body h)

/-! ## Texts that are a tag -/

/-- A text that is one tag is found as this tag. -/
theorem constructRule_run_of_isTag (hks : ks.Spells names) (h : IsTag names text) :
    ∃ form, (tagRule ks).run text = some ⟨form, text, []⟩ ∧
      (constructRule ks).run text = some ⟨.tag form, text, []⟩ := by
  obtain ⟨form, hform⟩ := h.tagForm? hks []
  rw [List.append_nil] at hform
  have hmarker : markerRule.run text = none := by
    obtain ⟨t, rfl⟩ := eq_percent_of_mem_tagForms (List.mem_of_head? hform)
    exact @Marker.run_eq_none '%' (by decide) t
  have hfallback : (fallbackRule ks).run text = none := by
    rw [Option.eq_none_iff_forall_ne_some]
    intro r hr
    -- the tag of the fallback would be another reading of the same text
    obtain ⟨u, v, body, hu, hsplit, -⟩ := FallbackForm.parts_of_run hks hr
    obtain ⟨other, hother⟩ := hu.tagForm? hks (FallbackForm.openMark ++ v)
    rw [← List.append_assoc, ← hsplit, hform] at hother
    cases hother
  have htag : (tagRule ks).run text = some ⟨form, text, []⟩ := hform
  refine ⟨form, htag, ?_⟩
  show Construct.run ks text = _
  rw [Construct.run, hmarker, hfallback, htag]
  rfl

theorem fallbackForms_of_isTag (hks : ks.Spells names) (h : IsTag names text) :
    fallbackForms ks text = [] := by
  obtain ⟨form, -, hrun⟩ := constructRule_run_of_isTag hks h
  rw [fallbackForms, Recogniser.scan_of_run hrun, Recogniser.scan_nil]
  rfl

/-- Without an opening bracket there is no marker. -/
theorem markerRule_absent (h : '[' ∉ text) : markerRule.Absent text := by
  refine Recogniser.Quiet.absent (.of_forall_mem fun c hc s => Marker.run_eq_none ?_ s)
  rintro rfl
  exact h hc

end RecordTemplate.Template

namespace RecordTemplate.Render

open RecordTemplate.Template

variable {ks : Keywords} {names : List String} {text : List Char}

/-! ## Texts reduced -/

section Reduced

variable {σ : Type} {test : List Char → ExceptT Failure (StateM σ) Bool}
  {notice : Event → ExceptT Failure (StateM σ) Unit}

/-- What a reduction comes to, it comes to step by step. -/
theorem answers_reduce (limit : Nat) (text : List Char) :
    Answers (fun r => Relation.ReflTransGen Step text r.1 ∧ (r.2 = true → Block.find? r.1 = none))
      (reduce test limit text) := by
  have hP := Answers.answering (ε := Failure) (σ := σ)
  induction limit generalizing text with
  | zero =>
    cases hb : Block.find? text with
    | none =>
      rw [reduce_of_find?_eq_none hb]
      exact hP.pure ⟨.refl, fun _ => hb⟩
    | some b =>
      rw [reduce, hb]
      exact hP.pure ⟨.refl, fun h => by cases h⟩
  | succ limit ih =>
    cases hb : Block.find? text with
    | none =>
      rw [reduce_of_find?_eq_none hb]
      exact hP.pure ⟨.refl, fun _ => hb⟩
    | some b =>
      rw [reduce_succ_of_some hb]
      refine hP.bind (hP.chooseBody b.branches) fun body hbody => ?_
      exact hP.mono (ih (splice b body)) fun r hr => ⟨.head (.splice hb hbody) hr.1, hr.2⟩

theorem answers_reduceBlocks (limit : Int) (text : List Char) :
    Answers (Relation.ReflTransGen Step text) (reduceBlocks test notice limit text) := by
  have hP := Answers.answering (ε := Failure) (σ := σ)
  refine hP.bind (answers_reduce limit.toNat text) fun r hr => ?_
  obtain ⟨reduced, done⟩ := r
  have hany {x : ExceptT Failure (StateM σ) Unit} : Answers (fun _ => True) x := hP.any x
  cases done with
  | false => exact hP.bind hany fun _ _ => hP.pure hr.1
  | true =>
    dsimp only
    cases strayMarker? reduced with
    | none => exact hP.pure hr.1
    | some marker => exact hP.bind hany fun _ _ => hP.pure hr.1

end Reduced

/-- The text that a reduction returns has no block, unless the limit is the last thing that was
    noticed. -/
theorem noBlock_or_limited {test : List Char → PassM Bool} {limit : Int} {reduced : List Char}
    {s t : PassState} (h : outcome (reduceBlocks test notice limit text) s = (.ok reduced, t)) :
    Block.find? reduced = none ∨ t.events.getLast? = some (.iterationLimit limit) := by
  rw [reduceBlocks, outcome_bind] at h
  rcases hr : outcome (reduce test limit.toNat text) s with ⟨e | ⟨u, done⟩, s'⟩ <;> rw [hr] at h
  · cases h
  have hanswer := answers_reduce limit.toNat text s (u, done) (by rw [hr])
  cases done with
  | true =>
    have hend : outcome (noticeStray notice u >>= fun _ => pure u) s' = (.ok reduced, t) := by
      rw [← h]
      dsimp only [noticeStray]
      cases strayMarker? u <;> rfl
    rw [outcome_bind] at hend
    rcases hstray : outcome (noticeStray notice u) s' with ⟨e | _, s''⟩ <;> rw [hstray] at hend
    · cases hend
    · cases hend
      exact .inl (hanswer.2 rfl)
  | false =>
    cases h
    exact .inr List.getLast?_concat

/-! ## Fallbacks of a pass -/

section Handlers

variable {m : Type → Type} [Monad m] [LawfulMonad m]

/-- Without fallbacks it does not matter what would become of them. -/
theorem substitute_of_fallbackForms_eq_nil (h : fallbackForms ks text = [])
    (renderTag : Tag → m (List Char)) (renderFallback other : FallbackForm → m (List Char)) :
    substitute ks renderTag renderFallback text = substitute ks renderTag other text := by
  refine replaceFound_congr fun f hf => ?_
  obtain ⟨lead, item, own⟩ := f
  cases item with
  | fallback form =>
    have hmem : form ∈ fallbackForms ks text := mem_fallbackForms.2 ⟨_, hf, rfl⟩
    rw [h] at hmem
    cases hmem
  | tag form => rfl
  | marker mk => rfl

/-- A text that is one tag is replaced as a whole. -/
theorem substitute_of_run {form : TagForm}
    (h : (constructRule ks).run text = some ⟨.tag form, text, []⟩)
    (renderTag : Tag → m (List Char)) (renderFallback : FallbackForm → m (List Char)) :
    substitute ks renderTag renderFallback text = renderTag (Tag.ofForm form text 0) := by
  rw [substitute, Recogniser.scan_of_run h, Recogniser.scan_nil]
  simp [replaceFound, Scan.cons]

end Handlers

/-- The tag or the body of a fallback in something that a text is reduced to. -/
inductive FallbackPart (ks : Keywords) (text : List Char) : List Char → Prop where
  | tag {reduced : List Char} {form : FallbackForm}
      (hreduced : Relation.ReflTransGen Step text reduced)
      (hform : form ∈ fallbackForms ks reduced) : FallbackPart ks text form.tagText
  | body {reduced : List Char} {form : FallbackForm}
      (hreduced : Relation.ReflTransGen Step text reduced)
      (hform : form ∈ fallbackForms ks reduced) : FallbackPart ks text form.body

namespace FallbackPart

variable {part : List Char}

theorem shorter (h : FallbackPart ks text part) : part.length < text.length := by
  have hless {reduced : List Char} {form : FallbackForm}
      (hreduced : Relation.ReflTransGen Step text reduced)
      (hform : form ∈ fallbackForms ks reduced) :
      form.tagText.length < text.length ∧ form.body.length < text.length := by
    obtain ⟨f, hf, hitem⟩ := mem_fallbackForms.1 hform
    obtain ⟨htag, hbody⟩ := length_lt_of_mem_found hf hitem
    have hle := (sublist_of_steps hreduced).length_le
    exact ⟨htag.trans_le hle, hbody.trans_le hle⟩
  cases h with
  | tag hreduced hform => exact (hless hreduced hform).1
  | body hreduced hform => exact (hless hreduced hform).2

/-- From a text to the parts of its fallbacks there is no way without end. -/
theorem wellFounded (ks : Keywords) :
    WellFounded fun part text => FallbackPart ks text part :=
  Subrelation.wf (fun h => h.shorter) (InvImage.wf List.length Nat.lt_wfRel.wf)

/-- A text without blocks and fallbacks has no parts. -/
theorem not_of_fallbackForms_eq_nil (hnone : Block.find? text = none)
    (hnil : fallbackForms ks text = []) : ¬ FallbackPart ks text part := by
  -- without a block there is no step
  have hsame {reduced : List Char} (h : Relation.ReflTransGen Step text reduced) :
      reduced = text := by
    rcases h.cases_head with rfl | ⟨next, ⟨hb, -⟩, -⟩
    · rfl
    · rw [hnone] at hb
      cases hb
  rintro (⟨hreduced, hform⟩ | ⟨hreduced, hform⟩)
  · rw [hsame hreduced, hnil] at hform
    cases hform
  · rw [hsame hreduced, hnil] at hform
    cases hform

end FallbackPart

namespace Pass

variable (p : Pass)

/-- The text of a fallback whose parts are rendered by `render`. -/
def fallbackBy (render : List Char → PassM (List Char)) (form : FallbackForm) :
    PassM (List Char) := do
  let value ← render form.tagText
  notice (.fallbackTried value.isEmpty)
  if value.isEmpty then render form.body else return value

/-- A text rendered, where the parts of its fallbacks are rendered by `render`. -/
def renderBy (render : List Char → PassM (List Char)) (text : List Char) : PassM (List Char) := do
  let reduced ← reduceBlocks p.testBranch notice p.limit text
  substitute p.keywords p.renderTag (fallbackBy render) reduced

/-- Tags and fallbacks of a text replaced. -/
def substituted (text : List Char) : PassM (List Char) :=
  substitute p.keywords p.renderTag (fallbackBy p.render) text

/-- The parts of fallbacks are rendered like texts of their own. -/
theorem render_eq_renderBy (text : List Char) : p.render text = p.renderBy p.render text :=
  renderTemplate_eq p.limit text

/-- Rendering a text asks for the rendering of the parts of its fallbacks only. -/
theorem renderBy_congr {render other : List Char → PassM (List Char)}
    (h : ∀ part, FallbackPart p.keywords text part → render part = other part) :
    p.renderBy render text = p.renderBy other text := by
  refine (answers_reduceBlocks p.limit text).bind_congr fun reduced hreduced => ?_
  refine replaceFound_congr fun f hf => ?_
  obtain ⟨lead, item, own⟩ := f
  cases item with
  | tag form => rfl
  | marker mk => rfl
  | fallback form =>
    show fallbackBy render form = fallbackBy other form
    have hform := mem_fallbackForms.2 ⟨_, hf, rfl⟩
    rw [fallbackBy, fallbackBy, h _ (.tag hreduced hform), h _ (.body hreduced hform)]

/-- A text without blocks is rendered by replacing its tags and fallbacks. -/
theorem render_of_noBlock (h : Block.find? text = none) :
    p.render text = noticeStray notice text >>= fun _ => p.substituted text := by
  rw [render_eq_renderBy, renderBy, reduceBlocks_of_find?_eq_none h]
  simp only [bind_assoc, pure_bind]
  rfl

/-- A tag without brackets is rendered as the tag that it is. -/
theorem render_tag_of_not_mem {form : TagForm} (hnone : '[' ∉ text)
    (h : (constructRule p.keywords).run text = some ⟨.tag form, text, []⟩) :
    p.render text = p.renderTag (Tag.ofForm form text 0) := by
  have habsent := markerRule_absent hnone
  rw [render_of_noBlock p (Block.find?_of_absent habsent), noticeStray,
    strayMarker?_of_absent habsent, substituted, substitute_of_run h]
  exact pure_bind () _

/-! ## Fallbacks of a text without blocks -/

/-- What becomes of a fallback token of a text without blocks. -/
structure RendersOnce (text : List Char) (t : Token) (form : FallbackForm) : Prop where
  /-- The token is parsed as the fallback that the scan has found. -/
  parsed : FallbackBlock.parse? p.keywords t.value t.position =
    some ⟨t.position, t.stop, form.tagText, form.body⟩
  found : ∃ f ∈ ((constructRule p.keywords).scan text).found,
    f.item = .fallback form ∧ f.text = t.value
  body_noBlock : Block.find? form.body = none
  body_noFallback : ∀ u ∈ tokens p.keywords form.body, u.kind ≠ .fallback
  /-- Rendering the body asks for no other rendering. -/
  body_noPart : ∀ part, ¬ FallbackPart p.keywords form.body part
  /-- Only the tags of the body are replaced, whatever would become of fallbacks. -/
  body_once : ∀ renderFallback, p.render form.body = (do
    noticeStray notice form.body
    substitute p.keywords p.renderTag renderFallback form.body)
  /-- With keywords that are plain words, a tag without brackets is the tag that it is parsed as,
      and the body stands in for it just if its text is empty. -/
  tag_once : ∀ names, p.keywords.Spells names → '[' ∉ form.tagText →
    ∃ tag, Tag.parse? p.keywords form.tagText 0 = some tag ∧
      p.render form.tagText = p.renderTag tag ∧
      (∀ part, ¬ FallbackPart p.keywords form.tagText part) ∧
      ∀ renderFallback, fallbackBy p.render form = (do
        let value ← p.renderTag tag
        notice (.fallbackTried value.isEmpty)
        if value = [] then do
          noticeStray notice form.body
          substitute p.keywords p.renderTag renderFallback form.body
        else return value)

theorem rendersOnce (hnone : Block.find? text = none) {t : Token}
    (ht : t ∈ tokens p.keywords text) (hkind : t.kind = .fallback) :
    ∃ form, p.RendersOnce text t form := by
  obtain ⟨f, hf, form, hitem, hvalue⟩ := found_of_mem_tokens ht hkind
  have hform : form ∈ fallbackForms p.keywords text := mem_fallbackForms.2 ⟨f, hf, hitem⟩
  have hbody : Block.find? form.body = none := FallbackForm.find?_body hform hnone
  have hnil := fallbackForms_body hform
  have honce (renderFallback : FallbackForm → PassM (List Char)) : p.render form.body = (do
      noticeStray notice form.body
      substitute p.keywords p.renderTag renderFallback form.body) := by
    rw [p.render_of_noBlock hbody, substituted, substitute_of_fallbackForms_eq_nil hnil]
  refine ⟨form, ?_, ⟨f, hf, hitem, hvalue⟩, hbody, ?_, ?_, honce, ?_⟩
  · have hread := Construct.isReread_of_mem_found hf t.position
    rw [hitem] at hread
    rw [← hvalue, Token.stop, ← hvalue]
    exact_mod_cast hread
  · intro u hu hfallback
    obtain ⟨g, hg, other, hother, -⟩ := found_of_mem_tokens hu hfallback
    have hmem : other ∈ fallbackForms p.keywords form.body := mem_fallbackForms.2 ⟨g, hg, hother⟩
    rw [hnil] at hmem
    cases hmem
  · intro part
    exact FallbackPart.not_of_fallbackForms_eq_nil hbody hnil
  · intro names hks hbracket
    have htag := FallbackForm.isTag_tagText hks hform
    obtain ⟨parts, hread, hrun⟩ := constructRule_run_of_isTag hks htag
    have hrender := p.render_tag_of_not_mem hbracket hrun
    refine ⟨_, Tag.parse?_of_tagForm? hread 0, hrender, ?_, fun renderFallback => ?_⟩
    · intro part
      have habsent := Block.find?_of_absent (markerRule_absent hbracket)
      exact FallbackPart.not_of_fallbackForms_eq_nil habsent (fallbackForms_of_isTag hks htag)
    · rw [fallbackBy, hrender, honce renderFallback]
      simp only [List.isEmpty_iff]

/-- Fallbacks bring no second round of blocks and fallbacks.

    The reduction leaves no block unless its limit is noticed.  A text without blocks is rendered by
    replacing its tags and fallbacks; the body of each of its fallbacks has no block and no
    fallback, so that only its tags are replaced, and a tag without brackets is rendered as the tag
    that it is.  In any text a rendering asks for the parts of the fallbacks only, and from part to
    part there is no way without end. -/
theorem fallbacks_render_once :
    (∀ text reduced s t,
      outcome (reduceBlocks p.testBranch notice p.limit text) s = (.ok reduced, t) →
        Block.find? reduced = none ∨ t.events.getLast? = some (.iterationLimit p.limit)) ∧
    (∀ text, Block.find? text = none →
      p.render text = (do noticeStray notice text; p.substituted text) ∧
      ∀ t ∈ tokens p.keywords text, t.kind = .fallback → ∃ form, p.RendersOnce text t form) ∧
    (∀ text, p.render text = p.renderBy p.render text) ∧
    (∀ text render other,
      (∀ part, FallbackPart p.keywords text part → render part = other part) →
        p.renderBy render text = p.renderBy other text) ∧
    WellFounded fun part text => FallbackPart p.keywords text part := by
  refine ⟨?_, ?_, p.render_eq_renderBy, ?_, FallbackPart.wellFounded p.keywords⟩
  · intro text reduced s t h
    exact noBlock_or_limited h
  · intro text hnone
    exact ⟨p.render_of_noBlock hnone, fun t ht hkind => p.rendersOnce hnone ht hkind⟩
  · intro text render other h
    exact p.renderBy_congr h

/-! ## A body that a marker runs out of -/

/-- A fallback in whose body a marker begins that ends with the closing mark. -/
def runningFallback : List Char := "%custom:none%[fallback]0[/if]%native:x%[if:[/fallback]".toList

def runningBody : List Char := "0[/if]%native:x%[if:".toList

/-- The same fallback behind one whose tag comes to a zero. -/
def runningText : List Char := "%native:x%[fallback]no[/fallback]".toList ++ runningFallback

def runningPass : Pass :=
  .ofSources [sourceOf "custom" (.text ""), sourceOf "native" (.text "0")] .empty

theorem spells_runningPass : runningPass.keywords.Spells ["custom", "native"] where
  mem_iff k := by simp [runningPass, ofSources, sourceOf, eq_comm]
  isPlainWord := by decide

/-- Only the tag of the body is replaced, and the zero needs no body. -/
theorem fallbacks_render_once_running :
    (markerTokens runningText).map Token.value = ["[/if]".toList, "[if:[/fallback]".toList] ∧
    Block.find? runningText = none ∧
    ⟨.fallback, runningFallback, 33⟩ ∈ tokens runningPass.keywords runningText ∧
    (∀ renderFallback, runningPass.render runningBody = (do
      noticeStray notice runningBody
      substitute runningPass.keywords runningPass.renderTag renderFallback runningBody)) ∧
    (∃ tag, Tag.parse? runningPass.keywords "%custom:none%".toList 0 = some tag ∧
      runningPass.render "%custom:none%".toList = runningPass.renderTag tag) ∧
    (outcome (runningPass.render runningText) {}).1 = .ok "00[/if]0[if:".toList := by
  have hmarkers : (markerTokens runningText).map Token.value =
      ["[/if]".toList, "[if:[/fallback]".toList] := by decide +kernel
  have hnone : Block.find? runningText = none := by decide +kernel
  have hmem : ⟨.fallback, runningFallback, 33⟩ ∈ tokens runningPass.keywords runningText := by
    decide +kernel
  have hparse : FallbackBlock.parse? runningPass.keywords runningFallback 33 =
      some ⟨33, 87, "%custom:none%".toList, runningBody⟩ := by decide +kernel
  obtain ⟨⟨tagText, body⟩, h⟩ :=
    (runningPass.fallbacks_render_once.2.1 runningText hnone).2 _ hmem rfl
  have hsame := hparse.symm.trans h.parsed
  simp only [Option.some.injEq, FallbackBlock.mk.injEq] at hsame
  obtain ⟨-, -, rfl, rfl⟩ := hsame
  obtain ⟨tag, htag, hrender, -⟩ := h.tag_once _ spells_runningPass (by decide)
  exact ⟨hmarkers, hnone, hmem, h.body_once, ⟨tag, htag, hrender⟩, by cbv⟩

end Pass
end RecordTemplate.Render
