/-
  RecordTemplate.Proofs.Pass.Nesting

  Fallbacks are nested less deeply than the template is long, so the bound on their nesting is
  never reached: the rendering of a template is that of its fallbacks, rendered as templates of
  their own, and of its tags (`renderTemplate_eq`).
-/

import RecordTemplate.Proofs.Outcome
import RecordTemplate.Proofs.Template.Reread
import RecordTemplate.Proofs.Template.Split

namespace RecordTemplate.Render

open RecordTemplate.Template

variable {ε σ α β : Type}

/-! ## Answers -/

/-- All answers of a step are of `Q`. -/
def Answers (Q : α → Prop) (x : ExceptT ε (StateM σ) α) : Prop :=
  ∀ s a, (outcome x s).1 = .ok a → Q a

theorem Answers.answering : Answering (m := ExceptT ε (StateM σ)) fun _ => Answers where
  pure h s a ha := by
    cases ha
    exact h
  bind {_ _ _ _ x f} hx hf s b hb := by
    rw [outcome_bind] at hb
    rcases hs : outcome x s with ⟨e | a, t⟩ <;> rw [hs] at hb
    · cases hb
    · exact hf a (hx s a (by rw [hs])) t b hb
  mono hx h s a ha := h a (hx s a ha)
  any _ _ _ _ := trivial

/-- Steps that go on alike from all answers are alike. -/
theorem Answers.bind_congr {Q : α → Prop} {x : ExceptT ε (StateM σ) α}
    {f g : α → ExceptT ε (StateM σ) β} (hx : Answers Q x) (h : ∀ a, Q a → f a = g a) :
    x >>= f = x >>= g := by
  have hout (s : σ) : outcome (x >>= f) s = outcome (x >>= g) s := by
    rw [outcome_bind, outcome_bind]
    rcases hs : outcome x s with ⟨e | a, t⟩
    · rfl
    · dsimp only
      rw [h a (hx s a (by rw [hs]))]
  exact funext hout

/-! ## Fallbacks of a text -/

theorem replaceFound_congr {m : Type → Type} [Monad m] [LawfulMonad m]
    {replace replace' : Found α → m (List Char)} {s : Scan α}
    (h : ∀ f ∈ s.found, replace f = replace' f) :
    replaceFound replace s = replaceFound replace' s := by
  have hmap : (s.found.mapM fun f => do return f.lead ++ (← replace f)) =
      s.found.mapM fun f => do return f.lead ++ (← replace' f) := by
    generalize s.found = found at h
    induction found with
    | nil => rfl
    | cons f found ih =>
      rw [List.mapM_cons, List.mapM_cons, h f (List.mem_cons_self ..),
        ih fun f hf => h f (List.mem_cons_of_mem _ hf)]
  rw [replaceFound, replaceFound, hmap]

/-- The tag and the body of a fallback are shorter than the text in which it is found. -/
theorem length_lt_of_mem_found {ks : Keywords} {text : List Char} {f : Found Construct}
    {form : FallbackForm} (h : f ∈ ((constructRule ks).scan text).found)
    (hf : f.item = .fallback form) :
    form.tagText.length < text.length ∧ form.body.length < text.length := by
  have htext := congrArg List.length (FallbackForm.text_of_mem_found h hf)
  have hle := (Recogniser.sublist_of_mem_found h).length_le
  have hmark : FallbackForm.openMark.length = 10 := rfl
  simp only [List.length_append, hmark] at htext
  omega

/-! ## Templates -/

variable {h : Handlers (ExceptT ε (StateM σ))} {ks : Keywords}

/-- A bound that is greater than the length of the text is as good as any other. -/
theorem renderNested_of_length_lt (limit : Int) {depth depth' : Nat} {text : List Char}
    (hd : text.length < depth) (hd' : text.length < depth') :
    renderNested h ks limit depth text = renderNested h ks limit depth' text := by
  induction depth generalizing depth' text with
  | zero => exact absurd hd (Nat.not_lt_zero _)
  | succ depth ih =>
    cases depth' with
    | zero => exact absurd hd' (Nat.not_lt_zero _)
    | succ depth' =>
      refine (Answers.answering.reduceBlocks limit text).bind_congr fun reduced hreduced => ?_
      refine replaceFound_congr fun f hf => ?_
      obtain ⟨lead, item, own⟩ := f
      cases item with
      | tag form => rfl
      | marker m => rfl
      | fallback form =>
        -- both parts of the fallback are shorter than what is left of the template
        obtain ⟨htag, hbody⟩ := length_lt_of_mem_found hf rfl
        have hle := hreduced.length_le
        have htag' : renderNested h ks limit depth form.tagText =
            renderNested h ks limit depth' form.tagText := ih (by omega) (by omega)
        have hbody' : renderNested h ks limit depth form.body =
            renderNested h ks limit depth' form.body := ih (by omega) (by omega)
        simp only [htag', hbody']

/-- A template is rendered by reducing its blocks and rendering its fallbacks and tags, where the
    tag and the body of a fallback are templates again. -/
theorem renderTemplate_eq (limit : Int) (text : List Char) :
    renderTemplate h ks limit text = (do
      let reduced ← reduceBlocks h.test h.notice limit text
      substitute ks h.renderTag (fun form => do
        let value ← renderTemplate h ks limit form.tagText
        h.notice (.fallbackTried value.isEmpty)
        if value.isEmpty then renderTemplate h ks limit form.body else return value) reduced) := by
  rw [renderTemplate, renderNested]
  refine (Answers.answering.reduceBlocks limit text).bind_congr fun reduced hreduced => ?_
  refine replaceFound_congr fun f hf => ?_
  obtain ⟨lead, item, own⟩ := f
  cases item with
  | tag form => rfl
  | marker m => rfl
  | fallback form =>
    obtain ⟨htag, hbody⟩ := length_lt_of_mem_found hf rfl
    have hle := hreduced.length_le
    have htag' : renderNested h ks limit text.length form.tagText =
        renderTemplate h ks limit form.tagText :=
      renderNested_of_length_lt limit (by omega) (by omega)
    have hbody' : renderNested h ks limit text.length form.body =
        renderTemplate h ks limit form.body :=
      renderNested_of_length_lt limit (by omega) (by omega)
    simp only [htag', hbody']

end RecordTemplate.Render
