/-
  RecordTemplate.Proofs.Filter.Chains

  What a chain of filters comes to.  `Runs` tells a chain invocation by invocation: the value that
  reaches an invocation either meets an unknown filter, or a filter that fails on it, or one that
  answers.  Only the last kind is kept, and the others leave one diagnostic each.

    * `Registry.applyChain_append` — two chains one after the other.
    * `Registry.Runs.applyChain_eq` — a run is what applying the chain comes to.
    * `Registry.Runs.applyChain_kept` — the invocations that are kept come to the same value, and
      none of them is skipped.
-/

import RecordTemplate.Proofs.Pass.Events

namespace RecordTemplate

open RecordTemplate.Render RecordTemplate.Template

namespace Registry

/-! ## One invocation -/

/-- The answer of a filter that must be known and must not fail. -/
def call (r : Registry) (context : FilterContext) (v : Value) (i : Invocation) :
    Except Failure Value := do
  let f ← r.get i.name
  f.apply context v i.args

section Step

variable {r : Registry} {context : FilterContext} {v w : Value} {i : Invocation} {f : Filter}
  {e : Failure}

theorem step_of_unknown (h : r.get? i.name = none) :
    r.step context v i = .error (.unknown i.name) := by
  rw [step, h]

theorem step_of_failed (h : r.get? i.name = some f) (hf : f.apply context v i.args = .error e) :
    r.step context v i = .error (.failed i.name e.message) := by
  simp only [step, h, hf]

theorem step_of_answered (h : r.get? i.name = some f)
    (hf : f.apply context v i.args = .ok w) : r.step context v i = .ok w := by
  simp only [step, h, hf]

theorem call_of_answered (h : r.get? i.name = some f)
    (hf : f.apply context v i.args = .ok w) : r.call context v i = .ok w := by
  rw [call, get, h]
  exact hf

end Step

/-! ## Runs of a chain -/

/-- A run of a chain from a value: the invocations that are kept, the diagnostics of those that
    are skipped, both in the order of the chain, and the value at its end. -/
inductive Runs (r : Registry) (context : FilterContext) :
    Value → List Invocation → List Invocation → List Diagnostic → Value → Prop where
  | done {v : Value} : Runs r context v [] [] [] v
  | unknown {v w : Value} {i : Invocation} {is kept : List Invocation} {ds : List Diagnostic}
      (h : r.get? i.name = none) (hrest : Runs r context v is kept ds w) :
      Runs r context v (i :: is) kept
        (⟨.warning, "unknown_filter", "Unknown filter applied: '" ++ i.name ++ "'."⟩ :: ds) w
  | failed {v w : Value} {i : Invocation} {is kept : List Invocation} {ds : List Diagnostic}
      {f : Filter} {e : Failure} (h : r.get? i.name = some f)
      (hf : f.apply context v i.args = .error e) (hrest : Runs r context v is kept ds w) :
      Runs r context v (i :: is) kept
        (⟨.warning, "filter_failed", "Filter '" ++ i.name ++ "' failed: " ++ e.message⟩ :: ds) w
  | answered {v u w : Value} {i : Invocation} {is kept : List Invocation}
      {ds : List Diagnostic} {f : Filter} (h : r.get? i.name = some f)
      (hf : f.apply context v i.args = .ok u) (hrest : Runs r context u is kept ds w) :
      Runs r context v (i :: is) (i :: kept) ds w

section Chain

variable {r : Registry} {context : FilterContext}

/-- Behind a chain the next one goes on with its value, and its faults follow. -/
theorem applyChain_append (v : Value) (is js : List Invocation) :
    r.applyChain context v (is ++ js) =
      ((r.applyChain context (r.applyChain context v is).1 js).1,
        (r.applyChain context v is).2 ++
          (r.applyChain context (r.applyChain context v is).1 js).2) := by
  induction is generalizing v with
  | nil => rfl
  | cons i is ih =>
    rw [List.cons_append, applyChain, applyChain]
    cases r.step context v i with
    | ok w => exact ih w
    | error fault => simp only [ih v, List.cons_append]

/-- Every chain has a run from every value: the one that applying it makes. -/
theorem exists_runs (v : Value) (is : List Invocation) :
    ∃ kept, Runs r context v is kept ((r.applyChain context v is).2.map ChainFault.diagnostic)
      (r.applyChain context v is).1 := by
  induction is generalizing v with
  | nil => exact ⟨[], .done⟩
  | cons i is ih =>
    rw [applyChain]
    cases hget : r.get? i.name with
    | none =>
      obtain ⟨kept, hkept⟩ := ih v
      rw [step_of_unknown hget]
      exact ⟨kept, .unknown hget hkept⟩
    | some f =>
      cases happly : f.apply context v i.args with
      | error e =>
        obtain ⟨kept, hkept⟩ := ih v
        rw [step_of_failed hget happly]
        exact ⟨kept, .failed hget happly hkept⟩
      | ok u =>
        obtain ⟨kept, hkept⟩ := ih u
        rw [step_of_answered hget happly]
        exact ⟨i :: kept, .answered hget happly hkept⟩

namespace Runs

variable {v w : Value} {is kept : List Invocation} {ds : List Diagnostic}

/-- There is no other run. -/
theorem applyChain_eq (h : Runs r context v is kept ds w) :
    (r.applyChain context v is).1 = w ∧
      (r.applyChain context v is).2.map ChainFault.diagnostic = ds := by
  induction h with
  | done => exact ⟨rfl, rfl⟩
  | unknown hget _ ih =>
    rw [applyChain, step_of_unknown hget]
    exact ⟨ih.1, congrArg _ ih.2⟩
  | failed hget hf _ ih =>
    rw [applyChain, step_of_failed hget hf]
    exact ⟨ih.1, congrArg _ ih.2⟩
  | answered hget hf _ ih =>
    rw [applyChain, step_of_answered hget hf]
    exact ih

/-- Without the invocations that were skipped the chain comes to the same value, and nothing is
    skipped: each of those that are left meets the value that it met in the whole chain. -/
theorem applyChain_kept (h : Runs r context v is kept ds w) :
    r.applyChain context v kept = (w, []) := by
  induction h with
  | done => rfl
  | unknown _ _ ih => exact ih
  | failed _ _ _ ih => exact ih
  | answered hget hf _ ih =>
    rw [applyChain, step_of_answered hget hf]
    exact ih

/-- What is kept is a fold of filters that are all known and all answer. -/
theorem foldlM_kept (h : Runs r context v is kept ds w) :
    kept.foldlM (r.call context) v = .ok w := by
  induction h with
  | done => rfl
  | unknown _ _ ih => exact ih
  | failed _ _ _ ih => exact ih
  | answered hget hf _ ih =>
    rw [List.foldlM_cons, call_of_answered hget hf]
    exact ih

/-- The chain is made of what is kept and one invocation for each diagnostic. -/
theorem sublist_kept (h : Runs r context v is kept ds w) :
    kept.Sublist is ∧ is.length = kept.length + ds.length := by
  induction h with
  | done => exact ⟨.refl _, rfl⟩
  | unknown _ _ ih =>
    refine ⟨ih.1.cons _, ?_⟩
    rw [List.length_cons, List.length_cons, ih.2, Nat.add_assoc]
  | failed _ _ _ ih =>
    refine ⟨ih.1.cons _, ?_⟩
    rw [List.length_cons, List.length_cons, ih.2, Nat.add_assoc]
  | answered _ _ _ ih =>
    refine ⟨ih.1.cons_cons _, ?_⟩
    rw [List.length_cons, List.length_cons, ih.2, Nat.add_right_comm]

end Runs
end Chain

/-! ## Chains as folds -/

end Registry
end RecordTemplate
