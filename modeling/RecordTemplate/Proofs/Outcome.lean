/-
  RecordTemplate.Proofs.Outcome

  What a step comes to from a given state: its answer or its failure, and the state after it.
  A failure keeps the state.  Four properties of steps are built on this: which failures a step
  can end with (`FailsOnly`), which invariants it keeps (`Keeps`), which events it appends to
  those of a pass (`Appends`), and whether it does anything else to the state (`Detached`).
-/

import RecordTemplate.Proofs.Sequential
import RecordTemplate.Render.Resolver

namespace RecordTemplate.Render

variable {ε σ α β : Type}

/-- The answer or the failure of a step that starts in a state, and the state after it. -/
def outcome (x : ExceptT ε (StateM σ) α) (s : σ) : Except ε α × σ := x.run.run s

/-! ## Outcomes of the basic steps -/

@[simp] theorem outcome_pure (a : α) (s : σ) :
    outcome (pure a : ExceptT ε (StateM σ) α) s = (.ok a, s) := rfl

@[simp] theorem outcome_throw (e : ε) (s : σ) :
    outcome (throw e : ExceptT ε (StateM σ) α) s = (.error e, s) := rfl

@[simp] theorem outcome_get (s : σ) :
    outcome (get : ExceptT ε (StateM σ) σ) s = (.ok s, s) := rfl

@[simp] theorem outcome_modify (f : σ → σ) (s : σ) :
    outcome (modify f : ExceptT ε (StateM σ) Unit) s = (.ok (), f s) := rfl

/-- The second step starts from the answer and the state of the first. -/
theorem outcome_bind (x : ExceptT ε (StateM σ) α) (f : α → ExceptT ε (StateM σ) β) (s : σ) :
    outcome (x >>= f) s =
      match outcome x s with
      | (.ok a, t) => outcome (f a) t
      | (.error e, t) => (.error e, t) := by
  simp only [outcome, ExceptT.run_bind, StateT.run_bind]
  rcases h : StateT.run (ExceptT.run x) s with ⟨a | a, t⟩ <;> rfl

theorem outcome_bind_ok {x : ExceptT ε (StateM σ) α} {s t : σ} {a : α}
    (f : α → ExceptT ε (StateM σ) β) (h : outcome x s = (.ok a, t)) :
    outcome (x >>= f) s = outcome (f a) t := by
  rw [outcome_bind, h]

theorem outcome_bind_error {x : ExceptT ε (StateM σ) α} {s t : σ} {e : ε}
    (f : α → ExceptT ε (StateM σ) β) (h : outcome x s = (.error e, t)) :
    outcome (x >>= f) s = (.error e, t) := by
  rw [outcome_bind, h]

/-- A function of the answer changes neither the failure nor the state. -/
theorem outcome_bind_pure (x : ExceptT ε (StateM σ) α) (g : α → β) (s : σ) :
    outcome (x >>= fun a => pure (g a)) s = ((outcome x s).1.map g, (outcome x s).2) := by
  rw [outcome_bind]
  rcases outcome x s with ⟨a | a, t⟩ <;> rfl

@[simp] theorem outcome_map (x : ExceptT ε (StateM σ) α) (g : α → β) (s : σ) :
    outcome (g <$> x) s = ((outcome x s).1.map g, (outcome x s).2) := by
  rw [map_eq_pure_bind, outcome_bind_pure]

/-- The handler starts from the state in which the step failed. -/
theorem outcome_tryCatch (x : ExceptT ε (StateM σ) α) (h : ε → ExceptT ε (StateM σ) α) (s : σ) :
    outcome (tryCatch x h) s =
      match outcome x s with
      | (.ok a, t) => (.ok a, t)
      | (.error e, t) => outcome (h e) t := by
  rcases hx : outcome x s with ⟨r, t⟩
  have hrun : StateT.run x s = (r, t) := hx
  -- both sides are the same match once the monad transformers are taken off
  show StateT.run (ExceptT.run (ExceptT.tryCatch x h)) s = _
  simp only [ExceptT.tryCatch, ExceptT.run_mk, StateT.run_bind, hrun]
  cases r <;> rfl

@[simp] theorem outcome_lift (x : Except ε α) (s : σ) :
    outcome (liftM x : ExceptT ε (StateM σ) α) s = (x, s) := rfl

@[simp] theorem outcome_notice (e : Event) (s : PassState) :
    outcome (notice e) s = (.ok (), { s with events := s.events ++ [e] }) := rfl

theorem outcome_forM_notice (l : List α) (f : α → Event) (s : PassState) :
    outcome (l.forM fun a => notice (f a)) s =
      (.ok (), { s with events := s.events ++ l.map f }) := by
  induction l generalizing s with
  | nil => simp [List.forM]
  | cons a l ih =>
    rw [List.forM, outcome_bind_ok _ (outcome_notice (f a) s), ih]
    simp

/-! ## Failures -/

/-- Every failure that a step can end with is one of `F`. -/
def FailsOnly (F : ε → Prop) (x : ExceptT ε (StateM σ) α) : Prop :=
  ∀ s e, (outcome x s).1 = .error e → F e

namespace FailsOnly

variable {F G : ε → Prop}

theorem sequential : Sequential (m := ExceptT ε (StateM σ)) fun _ => FailsOnly F where
  pure a s e h := by simp at h
  bind {_ _ x f} hx hf s e h := by
    rw [outcome_bind] at h
    -- the failure comes from the first step, or from the second one in a later state
    rcases hs : outcome x s with ⟨a | a, t⟩
    · rw [hs] at h
      cases h
      exact hx s e (by rw [hs])
    · rw [hs] at h
      exact hf a t e h

theorem notice (F : Failure → Prop) (e : Event) : FailsOnly F (notice e) :=
  fun _ _ h => by cases h

/-- Only the failures of the handler are left. -/
theorem tryCatch {x : ExceptT ε (StateM σ) α} {h : ε → ExceptT ε (StateM σ) α}
    (hx : FailsOnly F x) (hh : ∀ e, F e → FailsOnly G (h e)) :
    FailsOnly G (MonadExcept.tryCatch x h) := by
  intro s e he
  rw [outcome_tryCatch] at he
  rcases hs : outcome x s with ⟨a | a, t⟩
  · rw [hs] at he
    exact hh a (hx s a (by rw [hs])) t e he
  · rw [hs] at he
    cases he

/-- A step without failures comes to an answer. -/
theorem exists_ok {x : ExceptT ε (StateM σ) α} (hx : FailsOnly (fun _ => False) x) (s : σ) :
    ∃ a t, outcome x s = (.ok a, t) := by
  rcases hs : outcome x s with ⟨e | a, t⟩
  · exact (hx s e (by rw [hs])).elim
  · exact ⟨a, t, rfl⟩

end FailsOnly

/-! ## Invariants -/

/-- A step that ends, in an answer or in a failure, where `I` holds again. -/
def Keeps (I : σ → Prop) (x : ExceptT ε (StateM σ) α) : Prop := ∀ s, I s → I (outcome x s).2

namespace Keeps

variable {I : σ → Prop}

theorem sequential : Sequential (m := ExceptT ε (StateM σ)) fun _ => Keeps I where
  pure _ _ h := h
  bind {_ _ x f} hx hf s h := by
    have ht := hx s h
    rw [outcome_bind]
    rcases hs : outcome x s with ⟨a | a, t⟩ <;> rw [hs] at ht
    · exact ht
    · exact hf a t ht

end Keeps

/-! ## Events -/

/-- All that a step appends to the events of a pass are events of `E`. -/
def Appends (E : Event → Prop) (x : PassM α) : Prop :=
  ∀ s, ∃ es, (outcome x s).2.events = s.events ++ es ∧ ∀ e ∈ es, E e

namespace Appends

variable {E : Event → Prop}

theorem of_keepsEvents {x : PassM α} (h : ∀ s, (outcome x s).2.events = s.events) :
    Appends E x :=
  fun s => ⟨[], by simp [h s], by simp⟩

theorem mono {E' : Event → Prop} {x : PassM α} (h : ∀ e, E e → E' e) (hx : Appends E x) :
    Appends E' x := by
  intro s
  obtain ⟨es, hes, hE⟩ := hx s
  exact ⟨es, hes, fun e he => h e (hE e he)⟩

theorem sequential : Sequential (m := PassM) fun _ => Appends E where
  pure a := of_keepsEvents fun _ => rfl
  bind {_ _ x f} hx hf s := by
    obtain ⟨es, hes, hE⟩ := hx s
    rw [outcome_bind]
    rcases hs : outcome x s with ⟨a | a, t⟩
    · rw [hs] at hes
      exact ⟨es, hes, hE⟩
    · obtain ⟨es', hes', hE'⟩ := hf a t
      rw [hs] at hes
      refine ⟨es ++ es', by rw [hes', hes, List.append_assoc], fun e he => ?_⟩
      exact (List.mem_append.1 he).elim (hE e) (hE' e)

theorem notice {e : Event} (h : E e) : Appends E (notice e) :=
  fun s => ⟨[e], rfl, by simpa using h⟩

theorem tryCatch {x : PassM α} {h : Failure → PassM α} (hx : Appends E x)
    (hh : ∀ e, Appends E (h e)) : Appends E (MonadExcept.tryCatch x h) := by
  intro s
  obtain ⟨es, hes, hE⟩ := hx s
  rw [outcome_tryCatch]
  rcases hs : outcome x s with ⟨a | a, t⟩
  · obtain ⟨es', hes', hE'⟩ := hh a t
    rw [hs] at hes
    refine ⟨es ++ es', by rw [hes', hes, List.append_assoc], fun e he => ?_⟩
    exact (List.mem_append.1 he).elim (hE e) (hE' e)
  · rw [hs] at hes
    exact ⟨es, hes, hE⟩

end Appends

/-! ## Steps apart from the state -/

/-- A step of a pass whose answer does not depend on the state, and which changes nothing of the
    state but its events. -/
def Detached (x : PassM α) : Prop :=
  ∃ a, ∀ s, ∃ es, outcome x s = (a, { s with events := s.events ++ es })

namespace Detached

theorem of_outcome {x : PassM α} {a : Except Failure α} (h : ∀ s, outcome x s = (a, s)) :
    Detached x :=
  ⟨a, fun s => ⟨[], by rw [h s, List.append_nil]⟩⟩

theorem notice (e : Event) : Detached (notice e) := ⟨.ok (), fun _ => ⟨[e], rfl⟩⟩

theorem sequential : Sequential (m := PassM) fun _ => Detached where
  pure a := of_outcome fun _ => rfl
  bind {_ _ x f} hx hf := by
    obtain ⟨a, ha⟩ := hx
    -- which step answers does not depend on the state either
    rcases a with e | a
    · refine ⟨.error e, fun s => ?_⟩
      obtain ⟨es, hs⟩ := ha s
      exact ⟨es, outcome_bind_error f hs⟩
    · obtain ⟨b, hb⟩ := hf a
      refine ⟨b, fun s => ?_⟩
      obtain ⟨es, hs⟩ := ha s
      obtain ⟨es', hs'⟩ := hb { s with events := s.events ++ es }
      exact ⟨es ++ es', by rw [outcome_bind_ok f hs, hs', List.append_assoc]⟩

theorem terms {x : PassM α} (h : Detached x) (s : PassState) :
    (outcome x s).2.terms = s.terms := by
  obtain ⟨a, ha⟩ := h
  obtain ⟨es, hs⟩ := ha s
  rw [hs]

theorem cache {x : PassM α} (h : Detached x) (s : PassState) :
    (outcome x s).2.cache = s.cache := by
  obtain ⟨a, ha⟩ := h
  obtain ⟨es, hs⟩ := ha s
  rw [hs]

theorem answer {x : PassM α} (h : Detached x) (s t : PassState) :
    (outcome x s).1 = (outcome x t).1 := by
  obtain ⟨a, ha⟩ := h
  obtain ⟨es, hs⟩ := ha s
  obtain ⟨es', ht⟩ := ha t
  rw [hs, ht]

end Detached
end RecordTemplate.Render
