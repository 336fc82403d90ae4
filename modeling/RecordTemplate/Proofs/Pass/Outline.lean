/-
  RecordTemplate.Proofs.Pass.Outline

  The outline of a template: which of its pieces make up the output, and which tags are
  rendered, given only the results of the conditions and whether each fallback was needed.  The
  outline never sees the text of a tag; a piece just tells which tag it stands for.

    * `outlineNested` — the outline of a text.
    * `outlineNested_sublist` — the pieces with the tags as they are written are the text of the
      template with something deleted.
-/

import RecordTemplate.Proofs.Pass.Events
import RecordTemplate.Proofs.Template.Reread
import RecordTemplate.Proofs.Template.Split

namespace RecordTemplate.Render

open RecordTemplate.Template

/-! ## Pieces -/

/-- A piece of an output. -/
inductive Piece where
  /-- A text of the template. -/
  | literal (s : List Char)
  /-- The tag that was rendered as the one with this index, and how it is written. -/
  | tag (index : Nat) (source : List Char)

namespace Piece

/-- The piece as the template has it. -/
def source : Piece → List Char
  | literal s => s
  | tag _ source => source

/-- The piece as the output has it. -/
def fill (rendered : Rendered) : Piece → List Char
  | literal s => s
  | tag index _ => (rendered[index]?).elim [] Prod.snd

/-- Whether a piece that stands for a tag stands for one of those rendered. -/
def IsOf (rendered : Rendered) : Piece → Prop
  | literal _ => True
  | tag index source => ∃ e, rendered[index]? = some e ∧ e.1.text = source

variable {rendered : Rendered} {piece : Piece}

/-- Tags rendered later do not matter. -/
theorem fill_append (h : piece.IsOf rendered) (later : Rendered) :
    piece.fill (rendered ++ later) = piece.fill rendered := by
  cases piece with
  | literal s => rfl
  | tag index source =>
    obtain ⟨e, he, -⟩ := h
    have hi := (List.getElem?_eq_some_iff.1 he).1
    rw [fill, fill, List.getElem?_append_left hi]

theorem IsOf.append (h : piece.IsOf rendered) (later : Rendered) :
    piece.IsOf (rendered ++ later) := by
  cases piece with
  | literal s => trivial
  | tag index source =>
    obtain ⟨e, he, hs⟩ := h
    have hi := (List.getElem?_eq_some_iff.1 he).1
    exact ⟨e, by rw [List.getElem?_append_left hi, he], hs⟩

end Piece

/-- The output that pieces make up. -/
def fill (rendered : Rendered) (pieces : List Piece) : List Char :=
  pieces.flatMap (Piece.fill rendered)

/-- The pieces as the template has them. -/
def sources (pieces : List Piece) : List Char := pieces.flatMap Piece.source

theorem sources_append (pieces more : List Piece) :
    sources (pieces ++ more) = sources pieces ++ sources more := List.flatMap_append

/-! ## Outlines -/

/-- The results that are still to come, and the tags rendered so far. -/
structure Script where
  conditions : List Bool
  fallbacks : List Bool
  tags : List Tag := []

abbrev OutlineM := StateM Script

/-- The result of the next condition. -/
def nextCondition : OutlineM Bool :=
  fun s => (s.conditions.headD false, { s with conditions := s.conditions.tail })

/-- Whether the tag of the next fallback comes out empty. -/
def nextFallback : OutlineM Bool :=
  fun s => (s.fallbacks.headD false, { s with fallbacks := s.fallbacks.tail })

/-- A tag is rendered. -/
def outlineTag (tag : Tag) : OutlineM (List Piece) :=
  fun s => ([.tag s.tags.length tag.text], { s with tags := s.tags ++ [tag] })

/-- The outline of a scan with every construct replaced. -/
def outlineFound {α : Type} (replace : Found α → OutlineM (List Piece)) (s : Scan α) :
    OutlineM (List Piece) := do
  let pieces ← s.found.mapM fun f => do return .literal f.lead :: (← replace f)
  return pieces.flatten ++ [.literal s.tail]

variable (ks : Keywords)

/-- The outline of a text with its tags replaced. -/
def outlineTags (text : List Char) : OutlineM (List Piece) :=
  outlineFound (fun f => outlineTag (Tag.ofForm f.item f.text 0)) ((tagRule ks).scan text)

/-- A condition is tested: its tags are rendered, and its result is the next one. -/
def outlineTest (text : List Char) : OutlineM Bool :=
  match Condition.parse? text with
  | none => nextCondition
  | some c => do
    let _ ← outlineTags ks c.tagText
    nextCondition

/-- The outline of a text with its fallbacks and tags replaced. -/
def outlineSubstitute (outlineFallback : FallbackForm → OutlineM (List Piece))
    (text : List Char) : OutlineM (List Piece) :=
  outlineFound (fun f =>
    match f.item with
    | .fallback form => outlineFallback form
    | .tag form => outlineTag (Tag.ofForm form f.text 0)
    | .marker _ => outlineTags ks f.text) ((constructRule ks).scan text)

/-- The outline of a template.  It takes the same steps as its rendering. -/
def outlineNested (limit : Int) : Nat → List Char → OutlineM (List Piece)
  | 0, text => return [.literal text]
  | depth + 1, text => do
    let reduced ← reduceBlocks (outlineTest ks) (fun _ => pure ()) limit text
    outlineSubstitute ks (fun form => do
      let value ← outlineNested limit depth form.tagText
      if ← nextFallback then outlineNested limit depth form.body else return value) reduced

/-! ## Deletions only -/

/-- Every answer of a step is one of `Q`. -/
def Yields {σ α : Type} (Q : α → Prop) (x : StateM σ α) : Prop := ∀ s, Q (x.run s).1

namespace Yields

variable {σ α β : Type} {Q : α → Prop} {R : β → Prop}

theorem pure {a : α} (h : Q a) : Yields Q (pure a : StateM σ α) := fun _ => h

theorem bind {x : StateM σ α} {f : α → StateM σ β} (hx : Yields Q x)
    (hf : ∀ a, Q a → Yields R (f a)) : Yields R (x >>= f) :=
  fun s => hf _ (hx s) (x.run s).2

/-- Nothing is said of the first answer. -/
theorem any (x : StateM σ α) : Yields (fun _ => True) x := fun _ => trivial

end Yields

theorem Yields.answering {σ : Type} : Answering (m := StateM σ) fun _ => Yields where
  pure := .pure
  bind := .bind
  mono hx h := fun s => h _ (hx s)
  any := .any

theorem outlineFound_yields {α : Type} {rule : Recogniser α} {text : List Char}
    {replace : Found α → OutlineM (List Piece)}
    (h : ∀ f ∈ (rule.scan text).found,
      Yields (fun pieces => (sources pieces).Sublist f.text) (replace f)) :
    Yields (fun pieces => (sources pieces).Sublist text)
      (outlineFound replace (rule.scan text)) := by
  have hmap : Yields
      (fun pieces => (sources pieces.flatten).Sublist ((rule.scan text).found.flatMap Found.whole))
      ((rule.scan text).found.mapM fun f => do return .literal f.lead :: (← replace f)) := by
    -- a construct after the other, each with the text that leads to it
    generalize (rule.scan text).found = found at h
    induction found with
    | nil => exact .pure (List.Sublist.refl _)
    | cons f found ih =>
      rw [List.mapM_cons, bind_assoc]
      refine (h f (List.mem_cons_self ..)).bind fun pieces hpieces => ?_
      rw [pure_bind]
      refine (ih fun f hf => h f (List.mem_cons_of_mem _ hf)).bind fun more hmore => .pure ?_
      rw [List.flatten_cons, sources_append]
      exact ((List.Sublist.refl f.lead).append hpieces).append hmore
  refine hmap.bind fun pieces hpieces => .pure ?_
  have htail : sources [.literal (rule.scan text).tail] = (rule.scan text).tail :=
    List.append_nil _
  have hsub := hpieces.append (List.Sublist.refl (rule.scan text).tail)
  rw [← Scan.text_eq, Recogniser.text_scan] at hsub
  rwa [sources_append, htail]

theorem sublist_of_fallback {form : FallbackForm} {text : List Char}
    (h : text = form.tagText ++ (FallbackForm.openMark ++ (form.body ++ FallbackForm.closeMark))) :
    form.tagText.Sublist text ∧ form.body.Sublist text := by
  rw [h]
  refine ⟨List.sublist_append_left _ _, ?_⟩
  exact (List.sublist_append_left form.body _).trans
    ((List.sublist_append_right _ _).trans (List.sublist_append_right _ _))

theorem outlineTag_yields (tag : Tag) :
    Yields (fun pieces => (sources pieces).Sublist tag.text) (outlineTag tag) :=
  fun _ => (List.append_nil tag.text).symm ▸ List.Sublist.refl _

theorem outlineTags_yields (text : List Char) :
    Yields (fun pieces => (sources pieces).Sublist text) (outlineTags ks text) :=
  outlineFound_yields fun f _ => outlineTag_yields (Tag.ofForm f.item f.text 0)

/-- The pieces of an outline, with the tags as they are written, are the text with something
    deleted. -/
theorem outlineNested_sublist (limit : Int) (depth : Nat) (text : List Char) :
    Yields (fun pieces => (sources pieces).Sublist text) (outlineNested ks limit depth text) := by
  induction depth generalizing text with
  | zero => exact .pure (by simp [sources, Piece.source])
  | succ depth ih =>
    refine (Yields.answering.reduceBlocks limit text).bind fun reduced hreduced => ?_
    refine fun s => List.Sublist.trans (outlineFound_yields (fun f hf => ?_) s) hreduced
    split
    · next form hform =>
      -- whichever of tag and body is rendered, it is a piece of the fallback
      obtain ⟨htag, hbody⟩ := sublist_of_fallback (FallbackForm.text_of_mem_found hf hform)
      refine (ih form.tagText).bind fun value hvalue => (Yields.any _).bind fun isEmpty _ => ?_
      split
      · exact fun s => (ih form.body s).trans hbody
      · exact .pure (hvalue.trans htag)
    · next form _ => exact outlineTag_yields (Tag.ofForm form f.text 0)
    · exact outlineTags_yields ks f.text

end RecordTemplate.Render
