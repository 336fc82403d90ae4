/-
  RecordTemplate.Proofs.Mirroring

  Renderings of one template over two kinds of states.

  If the handlers of one rendering do to the image of a state what those of another do to the state,
  so do the renderings themselves (`Mirrors.renderTemplate`).  A rendering that keeps more than
  another, or one that sees less of the values, is tied to the other in this way.
-/

import RecordTemplate.Proofs.Conditional.Refinement

namespace RecordTemplate.Render

open RecordTemplate.Template

variable {ε σ ρ α β : Type} {f : σ → ρ}

namespace Mirrors

theorem pure (a : α) : Mirrors f (pure a : ExceptT ε (StateM σ) α) (pure a) := fun _ => rfl

theorem throw (e : ε) : Mirrors f (throw e : ExceptT ε (StateM σ) α) (throw e) := fun _ => rfl

/-- The second steps start from an answer and from its image. -/
theorem bind_map {α' : Type} {φ : α → α'} {x : ExceptT ε (StateM σ) α}
    {y : ExceptT ε (StateM ρ) α'} {g : α → ExceptT ε (StateM σ) β}
    {h : α' → ExceptT ε (StateM ρ) β} (hxy : Mirrors f (φ <$> x) y)
    (hgh : ∀ a, Mirrors f (g a) (h (φ a))) : Mirrors f (x >>= g) (y >>= h) := by
  intro w
  rw [outcome_bind, outcome_bind, hxy w, outcome_map]
  rcases outcome x w with ⟨e | a, v⟩
  · rfl
  · exact hgh a v

theorem mapM {g : α → ExceptT ε (StateM σ) β} {h : α → ExceptT ε (StateM ρ) β} {l : List α}
    (hgh : ∀ a ∈ l, Mirrors f (g a) (h a)) : Mirrors f (l.mapM g) (l.mapM h) := by
  induction l with
  | nil =>
    rw [List.mapM_nil, List.mapM_nil]
    exact pure []
  | cons a l ih =>
    have hrest := ih fun b hb => hgh b (List.mem_cons_of_mem a hb)
    rw [List.mapM_cons, List.mapM_cons]
    exact bind (hgh a List.mem_cons_self) fun b => bind hrest fun bs => pure (b :: bs)

theorem forM {g : α → ExceptT ε (StateM σ) PUnit} {h : α → ExceptT ε (StateM ρ) PUnit}
    (hgh : ∀ a, Mirrors f (g a) (h a)) (l : List α) : Mirrors f (l.forM g) (l.forM h) := by
  induction l with
  | nil => exact pure _
  | cons a l ih => exact bind (hgh a) fun _ => ih

/-! ## Conditional blocks -/

section Blocks

variable {test : List Char → ExceptT ε (StateM σ) Bool}
  {test' : List Char → ExceptT ε (StateM ρ) Bool}
  {notice : Event → ExceptT ε (StateM σ) Unit} {notice' : Event → ExceptT ε (StateM ρ) Unit}

theorem evaluate {render : List Char → ExceptT ε (StateM σ) (List Char)}
    {render' : List Char → ExceptT ε (StateM ρ) (List Char)}
    (hr : ∀ t, Mirrors f (render t) (render' t)) (hn : ∀ e, Mirrors f (notice e) (notice' e))
    (text : List Char) :
    Mirrors f (evaluate render notice text) (evaluate render' notice' text) := by
  unfold Render.evaluate
  split
  · exact bind (hn _) fun _ => pure false
  · exact bind (hr _) fun _ => bind (hn _) fun _ => pure _

variable (ht : ∀ c, Mirrors f (test c) (test' c))

include ht

theorem chooseBody (bs : List Branch) :
    Mirrors f (chooseBody test bs) (chooseBody test' bs) := by
  induction bs with
  | nil => exact pure []
  | cons b bs ih =>
    unfold Render.chooseBody
    split
    · exact pure b.body
    · refine bind (ht _) fun holds => ?_
      split
      · exact pure b.body
      · exact ih

theorem reduce (limit : Nat) (text : List Char) :
    Mirrors f (reduce test limit text) (reduce test' limit text) := by
  induction limit generalizing text with
  | zero =>
    unfold Render.reduce
    split
    · exact pure _
    · exact pure _
  | succ limit ih =>
    unfold Render.reduce
    split
    · exact pure _
    · exact bind (chooseBody ht _) fun body => ih _

theorem reduceBlocks (hn : ∀ e, Mirrors f (notice e) (notice' e)) (limit : Int)
    (text : List Char) :
    Mirrors f (reduceBlocks test notice limit text) (reduceBlocks test' notice' limit text) := by
  refine bind (reduce ht _ _) fun r => ?_
  obtain ⟨reduced, done⟩ := r
  dsimp only
  split
  · split
    · exact bind (hn _) fun _ => pure reduced
    · exact pure reduced
  · exact bind (hn _) fun _ => pure reduced

end Blocks

/-! ## Fallbacks and tags -/

theorem replaceFound {replace : Found α → ExceptT ε (StateM σ) (List Char)}
    {replace' : Found α → ExceptT ε (StateM ρ) (List Char)} {s : Scan α}
    (hr : ∀ g ∈ s.found, Mirrors f (replace g) (replace' g)) :
    Mirrors f (replaceFound replace s) (replaceFound replace' s) :=
  bind (mapM fun g hg => bind (hr g hg) fun _ => pure _) fun _ => pure _

variable {ks : Keywords} {renderTag : Tag → ExceptT ε (StateM σ) (List Char)}
  {renderTag' : Tag → ExceptT ε (StateM ρ) (List Char)}

theorem substituteTags (hr : ∀ t, Mirrors f (renderTag t) (renderTag' t)) (text : List Char) :
    Mirrors f (substituteTags ks renderTag text) (substituteTags ks renderTag' text) :=
  replaceFound fun _ _ => hr _

theorem substitute (hr : ∀ t, Mirrors f (renderTag t) (renderTag' t))
    {renderFallback : FallbackForm → ExceptT ε (StateM σ) (List Char)}
    {renderFallback' : FallbackForm → ExceptT ε (StateM ρ) (List Char)}
    (hf : ∀ form, Mirrors f (renderFallback form) (renderFallback' form)) (text : List Char) :
    Mirrors f (substitute ks renderTag renderFallback text)
      (substitute ks renderTag' renderFallback' text) := by
  refine replaceFound fun g _ => ?_
  split
  · exact hf _
  · exact hr _
  · exact substituteTags hr _

/-! ## Templates -/

variable {h : Handlers (ExceptT ε (StateM σ))} {h' : Handlers (ExceptT ε (StateM ρ))}

theorem renderNested (ht : ∀ c, Mirrors f (h.test c) (h'.test c))
    (hr : ∀ t, Mirrors f (h.renderTag t) (h'.renderTag t))
    (hn : ∀ e, Mirrors f (h.notice e) (h'.notice e)) (limit : Int) (depth : Nat)
    (text : List Char) :
    Mirrors f (renderNested h ks limit depth text) (renderNested h' ks limit depth text) := by
  -- the tag and the body of a fallback are rendered one level below
  induction depth generalizing text with
  | zero => exact pure text
  | succ depth ih =>
    refine bind (reduceBlocks ht hn limit text) fun reduced => ?_
    refine substitute hr (fun form => ?_) reduced
    refine bind (ih form.tagText) fun value => bind (hn _) fun _ => ?_
    split
    · exact ih form.body
    · exact pure value

/-- Renderings whose handlers mirror each other mirror each other. -/
theorem renderTemplate (ht : ∀ c, Mirrors f (h.test c) (h'.test c))
    (hr : ∀ t, Mirrors f (h.renderTag t) (h'.renderTag t))
    (hn : ∀ e, Mirrors f (h.notice e) (h'.notice e)) (limit : Int) (text : List Char) :
    Mirrors f (renderTemplate h ks limit text) (renderTemplate h' ks limit text) :=
  renderNested ht hr hn limit (text.length + 1) text

end Mirrors
end RecordTemplate.Render
