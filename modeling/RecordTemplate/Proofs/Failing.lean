/-
  RecordTemplate.Proofs.Failing

  When an answer is a failure.  `Fails` asks for any failure, `Escapes` for one on which the
  filters do not fall back; both are read off a computation from the front.
-/

import Mathlib.Tactic.Common
import RecordTemplate.Failure

namespace RecordTemplate.Render

section

variable {α β : Type} {x : Except Failure α}

/-! ## Any failure -/

/-- The answer is a failure. -/
def Fails {α : Type} (x : Except Failure α) : Prop := ∃ e, x = .error e

@[simp] theorem fails_ok {a : α} : ¬ Fails (.ok a : Except Failure α) := fun ⟨_, h⟩ => by cases h

@[simp] theorem fails_error {e : Failure} : Fails (.error e : Except Failure α) := ⟨e, rfl⟩

@[simp] theorem fails_map {f : α → β} : Fails (x.map f) ↔ Fails x := by
  cases x <;> simp [Except.map]

@[simp] theorem fails_bind {f : α → Except Failure β} :
    Fails (x.bind f) ↔ Fails x ∨ ∃ a, x = .ok a ∧ Fails (f a) := by
  cases x <;> simp [Except.bind]

theorem fails_pure {a : α} : ¬ Fails (pure a : Except Failure α) := fails_ok

theorem fails_do {f : α → Except Failure β} :
    Fails (x >>= f) ↔ Fails x ∨ ∃ a, x = .ok a ∧ Fails (f a) :=
  fails_bind

/-- What is computed without failure from an answer fails only with it. -/
theorem fails_do_pure {f : α → β} : Fails (x >>= fun a => pure (f a)) ↔ Fails x := by
  cases x with
  | ok a => exact iff_of_false fails_pure fails_ok
  | error e => exact iff_of_true fails_error fails_error

/-- Of two answers one after the other either may fail. -/
theorem fails_do_const {p : Prop} {f : α → Except Failure β} (h : ∀ a, Fails (f a) ↔ p) :
    Fails (x >>= f) ↔ Fails x ∨ p := by
  cases x with
  | ok a => exact (h a).trans (or_iff_right fails_ok).symm
  | error e => exact iff_of_true fails_error (.inl fails_error)

/-! ## Failures that are not taken for an unreadable value -/

/-- The answer is a failure other than that a value cannot be read. -/
def Escapes (x : Except Failure α) : Prop := ∃ e, x = .error e ∧ e.isUnreadable = false

@[simp] theorem escapes_ok {a : α} : ¬ Escapes (.ok a : Except Failure α) :=
  fun ⟨_, h, _⟩ => by cases h

@[simp] theorem escapes_error {e : Failure} :
    Escapes (.error e : Except Failure α) ↔ e.isUnreadable = false := by
  simp [Escapes]

@[simp] theorem escapes_map {f : α → β} : Escapes (x.map f) ↔ Escapes x := by
  cases x <;> simp [Except.map]

end

end RecordTemplate.Render
