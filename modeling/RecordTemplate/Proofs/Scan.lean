/-
  RecordTemplate.Proofs.Scan

  How a scan goes on: a construct that begins a text is found first, and a character at which
  nothing begins belongs to the text before the next construct.
-/

import RecordTemplate.Template.Recogniser

namespace RecordTemplate.Template

variable {α : Type}

namespace Scan

/-- The scan of a text with a piece in front that belongs to no construct. -/
def prepend (piece : List Char) (s : Scan α) : Scan α :=
  match s.found with
  | [] => ⟨[], piece ++ s.tail⟩
  | f :: fs => ⟨{ f with lead := piece ++ f.lead } :: fs, s.tail⟩

/-- The scan of a text with a construct in front. -/
def cons (item : α) (text : List Char) (s : Scan α) : Scan α :=
  ⟨⟨[], item, text⟩ :: s.found, s.tail⟩

@[simp] theorem prepend_nil (s : Scan α) : s.prepend [] = s := by
  obtain ⟨_ | ⟨f, fs⟩, tail⟩ := s <;> rfl

theorem consChar_prepend (c : Char) (piece : List Char) (s : Scan α) :
    (s.prepend piece).consChar c = s.prepend (c :: piece) := by
  obtain ⟨_ | ⟨f, fs⟩, tail⟩ := s <;> rfl

@[simp] theorem found_cons (item : α) (text : List Char) (s : Scan α) :
    (s.cons item text).found = ⟨[], item, text⟩ :: s.found := rfl

@[simp] theorem tail_cons (item : α) (text : List Char) (s : Scan α) :
    (s.cons item text).tail = s.tail := rfl

theorem found_prepend_eq_nil {piece : List Char} {s : Scan α} :
    (s.prepend piece).found = [] ↔ s.found = [] := by
  obtain ⟨_ | ⟨f, fs⟩, tail⟩ := s <;> simp [prepend]

/-- A piece in front does not change the tail behind a construct. -/
theorem tail_prepend {s : Scan α} (h : s.found ≠ []) (piece : List Char) :
    (s.prepend piece).tail = s.tail := by
  obtain ⟨_ | ⟨f, fs⟩, tail⟩ := s
  · exact absurd rfl h
  · rfl

end Scan

namespace Recogniser

variable {rule : Recogniser α}

@[simp] theorem scan_nil : rule.scan [] = ⟨[], []⟩ := by
  rw [scan]

theorem scan_of_run {s : List Char} {r : Reading α} (h : rule.run s = some r) :
    rule.scan s = (rule.scan r.rest).cons r.item r.text := by
  cases s with
  | nil =>
    -- a construct has at least one character
    obtain ⟨hne, hs⟩ := rule.splits h
    exact absurd (List.append_eq_nil_iff.1 hs.symm).1 hne
  | cons c cs =>
    rw [scan]
    split
    · next r' h' =>
      cases h.symm.trans h'
      rfl
    · next h' => exact absurd (h.symm.trans h') (by simp)

theorem scan_of_none {c : Char} {cs : List Char} (h : rule.run (c :: cs) = none) :
    rule.scan (c :: cs) = (rule.scan cs).consChar c := by
  rw [scan]
  split
  · next r' h' => exact absurd (h.symm.trans h') (by simp)
  · rfl

/-! ## Pieces in which nothing begins -/

/-- Nothing begins within a piece that `rest` follows. -/
def ClearBefore (rule : Recogniser α) (rest piece : List Char) : Prop :=
  ∀ t, t ≠ [] → t <:+ piece → rule.run (t ++ rest) = none

/-- A piece in which nothing begins belongs to no construct. -/
theorem ClearBefore.scan_append {piece rest : List Char} (h : rule.ClearBefore rest piece) :
    rule.scan (piece ++ rest) = (rule.scan rest).prepend piece := by
  induction piece with
  | nil => simp
  | cons c piece ih =>
    have hhere : rule.run (c :: (piece ++ rest)) = none :=
      h (c :: piece) (List.cons_ne_nil _ _) List.suffix_rfl
    have hlater : rule.ClearBefore rest piece := fun t hne ht =>
      h t hne (ht.trans (List.suffix_cons c piece))
    rw [List.cons_append, scan_of_none hhere, ih hlater, Scan.consChar_prepend]

/-- Nothing begins within a piece, whatever follows it. -/
def Quiet (rule : Recogniser α) (piece : List Char) : Prop :=
  ∀ t rest, t ≠ [] → t <:+ piece → rule.run (t ++ rest) = none

namespace Quiet

theorem nil : rule.Quiet [] := fun _ _ hne ht => absurd (List.suffix_nil.1 ht) hne

theorem append {piece piece' : List Char} (h : rule.Quiet piece) (h' : rule.Quiet piece') :
    rule.Quiet (piece ++ piece') := by
  rintro t rest hne ⟨w, hw⟩
  -- the place lies in the first piece, with all of the second behind it, or in the second one
  rcases List.append_eq_append_iff.1 hw with ⟨u, rfl, rfl⟩ | ⟨u, rfl, rfl⟩
  · by_cases hu : u = []
    · subst hu
      exact h' _ rest hne List.suffix_rfl
    · rw [List.append_assoc]
      exact h u _ hu (List.suffix_append w u)
  · exact h' t rest hne (List.suffix_append u t)

/-- Nothing begins in a piece if nothing begins with any of its characters. -/
theorem of_forall_mem {piece : List Char} (h : ∀ c ∈ piece, ∀ s, rule.run (c :: s) = none) :
    rule.Quiet piece := by
  intro t rest hne ht
  obtain ⟨c, t, rfl⟩ := List.exists_cons_of_ne_nil hne
  exact h c (ht.subset List.mem_cons_self) _

end Quiet

theorem scan_append {piece : List Char} (h : rule.Quiet piece) (s : List Char) :
    rule.scan (piece ++ s) = (rule.scan s).prepend piece :=
  ClearBefore.scan_append fun t hne ht => h t s hne ht

end Recogniser
end RecordTemplate.Template
