/-
  RecordTemplate.Proofs.Sequential

  Properties that hold of a sequence of steps when they hold of each step.  Rendering a template
  is a sequence of conditions tested, tags rendered and events noticed, so such a property holds
  of the rendering of every template once it holds of these three handlers
  (`Sequential.renderTemplate`).
-/

import RecordTemplate.Render.Substitution

namespace RecordTemplate.Render

open RecordTemplate.Template

/-- Whether an event is about the template, and not about one of its tags. -/
def Event.isOfTemplate : Event → Bool
  | branchTested _ | malformedCondition _ | conditionDecided _ _ | fallbackTried _
  | iterationLimit _ | unbalancedMarker _ => true
  | _ => false

/-- Whether an event is about the fallbacks or the blocks of a template, and not about a
    condition. -/
def Event.isOfStructure : Event → Bool
  | fallbackTried _ | iterationLimit _ | unbalancedMarker _ => true
  | _ => false

theorem Event.isOfTemplate_of_isOfStructure {e : Event} (h : e.isOfStructure = true) :
    e.isOfTemplate = true := by
  cases e <;> first | rfl | cases h

variable {m : Type → Type} [Monad m]

/-- A property of steps that holds of a sequence when it holds of its parts. -/
structure Sequential (P : ∀ α : Type, m α → Prop) : Prop where
  pure : ∀ {α : Type} (a : α), P _ (pure a : m α)
  bind : ∀ {α β : Type} {x : m α} {f : α → m β}, P _ x → (∀ a, P _ (f a)) → P _ (x >>= f)

namespace Sequential

variable {P : ∀ α : Type, m α → Prop} {α β : Type}

theorem mapM [LawfulMonad m] (hP : Sequential P) {f : α → m β} {l : List α}
    (hf : ∀ a ∈ l, P _ (f a)) : P _ (l.mapM f) := by
  induction l with
  | nil => simpa using hP.pure []
  | cons a l ih =>
    have hrest : P _ (l.mapM f) := ih fun b hb => hf b (List.mem_cons_of_mem _ hb)
    rw [List.mapM_cons]
    exact hP.bind (hf a List.mem_cons_self) fun b => hP.bind hrest fun bs => hP.pure _

theorem forM (hP : Sequential P) {f : α → m PUnit} (hf : ∀ a, P _ (f a)) (l : List α) :
    P _ (l.forM f) := by
  induction l with
  | nil => exact hP.pure _
  | cons a l ih => exact hP.bind (hf a) fun _ => ih

/-! ## Conditional blocks -/

theorem evaluate (hP : Sequential P) {renderTag : List Char → m (List Char)}
    {notice : Event → m Unit} (hr : ∀ t, P _ (renderTag t))
    (hn : ∀ e, e.isOfTemplate = true → P _ (notice e)) (text : List Char) :
    P _ (evaluate renderTag notice text) := by
  unfold Render.evaluate
  split
  · exact hP.bind (hn _ rfl) fun _ => hP.pure _
  · exact hP.bind (hr _) fun _ => hP.bind (hn _ rfl) fun _ => hP.pure _

variable {test : List Char → m Bool}

theorem chooseBody (hP : Sequential P) (ht : ∀ c, P _ (test c)) (bs : List Branch) :
    P _ (chooseBody test bs) := by
  induction bs with
  | nil => exact hP.pure _
  | cons b bs ih =>
    unfold Render.chooseBody
    split
    · exact hP.pure _
    · refine hP.bind (ht _) fun holds => ?_
      split
      · exact hP.pure _
      · exact ih

theorem reduce (hP : Sequential P) (ht : ∀ c, P _ (test c)) (limit : Nat) (text : List Char) :
    P _ (reduce test limit text) := by
  -- the text changes with every step, the limit counts the steps that are left
  induction limit generalizing text with
  | zero =>
    unfold Render.reduce
    split
    · exact hP.pure _
    · exact hP.pure _
  | succ limit ih =>
    unfold Render.reduce
    split
    · exact hP.pure _
    · exact hP.bind (hP.chooseBody ht _) fun body => ih _

theorem reduceBlocks (hP : Sequential P) (ht : ∀ c, P _ (test c)) {notice : Event → m Unit}
    (hn : ∀ e, e.isOfStructure = true → P _ (notice e)) (limit : Int) (text : List Char) :
    P _ (reduceBlocks test notice limit text) := by
  refine hP.bind (hP.reduce ht _ _) fun r => ?_
  split
  split
  · split
    · exact hP.bind (hn _ rfl) fun _ => hP.pure _
    · exact hP.pure _
  · exact hP.bind (hn _ rfl) fun _ => hP.pure _

/-! ## Fallbacks and tags -/

variable [LawfulMonad m]

theorem replaceFound (hP : Sequential P) {replace : Found α → m (List Char)}
    {s : Scan α} (hr : ∀ f ∈ s.found, P _ (replace f)) : P _ (replaceFound replace s) :=
  hP.bind (hP.mapM fun f hf => hP.bind (hr f hf) fun _ => hP.pure _) fun _ => hP.pure _

variable {ks : Keywords} {renderTag : Tag → m (List Char)}

theorem substituteTags (hP : Sequential P) (hr : ∀ t, P _ (renderTag t)) (text : List Char) :
    P _ (substituteTags ks renderTag text) :=
  hP.replaceFound fun _ _ => hr _

theorem substitute (hP : Sequential P) (hr : ∀ t, P _ (renderTag t))
    {renderFallback : FallbackForm → m (List Char)} (hf : ∀ f, P _ (renderFallback f))
    (text : List Char) : P _ (substitute ks renderTag renderFallback text) := by
  refine hP.replaceFound fun f _ => ?_
  split
  · exact hf _
  · exact hr _
  · exact hP.substituteTags hr _

variable {h : Handlers m}

theorem renderNested (hP : Sequential P) (ht : ∀ c, P _ (h.test c)) (hr : ∀ t, P _ (h.renderTag t))
    (hn : ∀ e, e.isOfStructure = true → P _ (h.notice e)) (limit : Int) (depth : Nat)
    (text : List Char) :
    P _ (renderNested h ks limit depth text) := by
  -- the tag and the body of a fallback are rendered one level below
  induction depth generalizing text with
  | zero => exact hP.pure _
  | succ depth ih =>
    refine hP.bind (hP.reduceBlocks ht hn _ _) fun reduced => ?_
    refine hP.substitute hr (fun form => ?_) _
    refine hP.bind (ih _) fun value => hP.bind (hn _ rfl) fun _ => ?_
    split
    · exact ih _
    · exact hP.pure _

/-- A property of sequences holds of the rendering of a template if it holds of the handlers. -/
theorem renderTemplate (hP : Sequential P) (ht : ∀ c, P _ (h.test c))
    (hr : ∀ t, P _ (h.renderTag t)) (hn : ∀ e, e.isOfStructure = true → P _ (h.notice e))
    (limit : Int) (text : List Char) : P _ (renderTemplate h ks limit text) :=
  hP.renderNested ht hr hn _ _ _

end Sequential
end RecordTemplate.Render
