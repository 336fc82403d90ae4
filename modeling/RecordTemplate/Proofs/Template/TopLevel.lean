/-
  RecordTemplate.Proofs.Template.TopLevel

  Splitting at the top level is the inverse of joining.  A text is closed if it ends outside
  quotes with every parenthesis closed that counts; what counts is told here by a grammar
  (`Closed`), and the nesting that the splitting keeps agrees with it (`closed_iff`).

  Every text either passes as a whole or begins with a closed part that passes and a separator
  behind it (`topLevel_induction`).  So the parts of a text are the only ones that do not split
  any more, are closed up to the last one, and give the text when they are joined; a separator
  splits behind a closed text and nowhere else (`splitTopLevel_inverts_joinWith`).
-/

import Mathlib.Tactic.Common
import RecordTemplate.Proofs.Template.Splitting

namespace RecordTemplate.Template

open RecordTemplate.Text

/-! ## Closed texts -/

/-- A text in which every quote and every parenthesis has its partner; what stands in quotes
    does not count. -/
inductive Paired : List Char → Prop
  | nil : Paired []
  | plain {c s} : isQuote c = false → c ≠ '(' → c ≠ ')' → Paired s → Paired (c :: s)
  | quoted {q inner s} : isQuote q = true → q ∉ inner → Paired s →
      Paired (q :: (inner ++ q :: s))
  | parenthesised {inner s} : Paired inner → Paired s → Paired ('(' :: (inner ++ ')' :: s))

/-- A text that ends outside quotes, with all its parentheses closed.  A closing parenthesis
    without an opening one does not count. -/
inductive Closed : List Char → Prop
  | paired {s} : Paired s → Closed s
  | surplus {s t} : Paired s → Closed t → Closed (s ++ ')' :: t)

/-- A text has its partners, or it has them up to a closing parenthesis that closes nothing in it
    and behind which a text with the property `P` follows. -/
inductive PairedUntil (P : List Char → Prop) : List Char → Prop
  | paired {s} : Paired s → PairedUntil P s
  | closes {inner t} : Paired inner → P t → PairedUntil P (inner ++ ')' :: t)

variable {c q : Char} {s t inner : List Char}

theorem Paired.append (hs : Paired s) (ht : Paired t) : Paired (s ++ t) := by
  induction hs with
  | nil => exact ht
  | plain hquote hopen hclose _ ih => exact .plain hquote hopen hclose ih
  | quoted hq hinner _ ih =>
    rw [List.cons_append, List.append_assoc, List.cons_append]
    exact .quoted hq hinner ih
  | parenthesised hinner _ _ ih =>
    rw [List.cons_append, List.append_assoc, List.cons_append]
    exact .parenthesised hinner ih

theorem PairedUntil.append {P : List Char → Prop} (hs : Paired s) (ht : PairedUntil P t) :
    PairedUntil P (s ++ t) := by
  cases ht with
  | paired ht => exact .paired (hs.append ht)
  | closes hinner ht =>
    rw [← List.append_assoc]
    exact .closes (hs.append hinner) ht

/-! ## The nesting behind a text -/

namespace Nesting

/-- The nesting after a whole text. -/
def after (n : Nesting) (s : List Char) : Nesting := s.foldl step n

@[simp] theorem after_nil (n : Nesting) : n.after [] = n := rfl

@[simp] theorem after_cons (n : Nesting) (c : Char) (s : List Char) :
    n.after (c :: s) = (n.step c).after s := rfl

@[simp] theorem after_append (n : Nesting) (s t : List Char) :
    n.after (s ++ t) = (n.after s).after t := List.foldl_append

variable {depth : Nat}

/-- Up to the end of the quotes nothing changes. -/
theorem after_inside (h : q ∉ inner) : after ⟨some q, depth⟩ inner = ⟨some q, depth⟩ := by
  induction inner with
  | nil => rfl
  | cons c inner ih =>
    obtain ⟨hne, hmem⟩ := List.ne_and_not_mem_of_not_mem_cons h
    rw [after_cons, step_inside (Ne.symm hne)]
    exact ih hmem

/-- Quotes that end are left at a first quote of the same kind. -/
theorem exists_unquoted (h : (after ⟨some q, depth⟩ s).quote = none) :
    ∃ inner t, s = inner ++ q :: t ∧ q ∉ inner ∧
      after ⟨some q, depth⟩ s = after ⟨none, depth⟩ t := by
  have hmem : q ∈ s := by
    by_contra hmem
    rw [after_inside hmem] at h
    cases h
  obtain ⟨inner, t, rfl, hinner⟩ := List.eq_append_cons_of_mem hmem
  refine ⟨inner, t, rfl, hinner, ?_⟩
  rw [after_append, after_inside hinner, after_cons, step_unquote]

end Nesting

open Nesting

/-- What has its partners leaves the nesting as it was. -/
theorem Paired.after (h : Paired s) (depth : Nat) :
    Nesting.after ⟨none, depth⟩ s = ⟨none, depth⟩ := by
  induction h generalizing depth with
  | nil => rfl
  | plain hquote hopen hclose _ ih => rw [after_cons, step_plain hquote hopen hclose, ih]
  | quoted hq hinner _ ih =>
    rw [after_cons, step_quote hq, after_append, after_inside hinner, after_cons, step_unquote, ih]
  | parenthesised _ _ ihinner ih =>
    rw [after_cons, step_open, after_append, ihinner, after_cons, step_close, Nat.add_sub_cancel,
      ih]

/-- A text that ends no deeper than it starts closes no more than it opens, or goes on one level
    further out behind the parenthesis that does. -/
theorem pairedUntil_of_after {depth final : Nat} {s : List Char}
    (h : Nesting.after ⟨none, depth⟩ s = ⟨none, final⟩) (hle : final ≤ depth) :
    PairedUntil (fun t => Nesting.after ⟨none, depth - 1⟩ t = ⟨none, final⟩) s := by
  match s with
  | [] => exact .paired .nil
  | c :: s =>
    by_cases hquote : isQuote c = true
    · rw [after_cons, step_quote hquote] at h
      obtain ⟨inner, t, rfl, hinner, ht⟩ := exists_unquoted (by rw [h])
      have hrest := pairedUntil_of_after (ht.symm.trans h) hle
      simpa using PairedUntil.append (.quoted hquote hinner .nil) hrest
    · rw [Bool.not_eq_true] at hquote
      by_cases hopen : c = '('
      · -- once for what stands in the parentheses and once for what follows them
        subst hopen
        rw [after_cons, step_open] at h
        cases pairedUntil_of_after h (by omega) with
        | paired hs =>
          -- the parenthesis would stay open
          rw [hs.after] at h
          cases h
          omega
        | closes hinner ht =>
          have hrest := pairedUntil_of_after ht hle
          simpa using PairedUntil.append (.parenthesised hinner .nil) hrest
      · by_cases hclose : c = ')'
        · subst hclose
          rw [after_cons, step_close] at h
          exact .closes .nil h
        · rw [after_cons, step_plain hquote hopen hclose] at h
          have hrest := pairedUntil_of_after h hle
          exact PairedUntil.append (.plain hquote hopen hclose .nil) hrest
termination_by s.length

theorem Closed.after (h : Closed s) : Nesting.after {} s = {} := by
  induction h with
  | paired h => exact h.after 0
  | surplus h _ ih =>
    rw [after_append, h.after 0, after_cons, step_close]
    exact ih

theorem closed_of_after {s : List Char} (h : Nesting.after {} s = {}) : Closed s := by
  cases pairedUntil_of_after h (Nat.le_refl 0) with
  | paired hs => exact .paired hs
  | closes hinner ht => exact .surplus hinner (closed_of_after ht)
termination_by s.length

/-- A text is closed if the nesting behind it is the one at the start of a text. -/
theorem closed_iff : Closed s ↔ Nesting.after {} s = {} := ⟨Closed.after, closed_of_after⟩

instance : Decidable (Closed s) := decidable_of_iff _ closed_iff.symm

/-! ## Cuts -/

theorem Passes.after_eq {separator : List Char} {n m : Nesting} (h : Passes separator n s m) :
    n.after s = m := by
  induction s generalizing n with
  | nil => exact h
  | cons c s ih => exact ih h.2

theorem Nesting.eq_of_separates {n : Nesting} {d : Char} (h : n.separates [c] d = true) :
    n = {} ∧ d = c := by
  obtain ⟨quote, depth⟩ := n
  simp only [separates, Bool.and_eq_true, Option.isNone_iff_eq_none, beq_iff_eq, bne_iff_ne,
    List.cons.injEq, and_true] at h
  obtain ⟨⟨⟨⟨rfl, rfl⟩, -⟩, -⟩, rfl⟩ := h
  exact ⟨rfl, rfl⟩

theorem splitTopLevel_ne_nil (separator s : List Char) : splitTopLevel separator s ≠ [] :=
  splitFrom_ne_nil {} s

/-- A text passes, or a separator in it stands behind a first part that passes. -/
theorem passes_or_cut (c : Char) (n : Nesting) (s : List Char) :
    (∃ m, Passes [c] n s m) ∨ ∃ part rest, s = part ++ c :: rest ∧ Passes [c] n part {} := by
  induction s generalizing n with
  | nil => exact .inl ⟨n, rfl⟩
  | cons d s ih =>
    cases hsep : n.separates [c] d with
    | true =>
      obtain ⟨rfl, rfl⟩ := eq_of_separates hsep
      exact .inr ⟨[], s, rfl, rfl⟩
    | false =>
      obtain ⟨m, hs⟩ | ⟨part, rest, rfl, hpart⟩ := ih (n.step d)
      · exact .inl ⟨m, hsep, hs⟩
      · exact .inr ⟨d :: part, rest, rfl, hsep, hpart⟩

/-- What holds of texts that pass, and of a text behind a separator and a closed part if it holds
    of the text itself, holds of all texts. -/
theorem topLevel_induction {P : List Char → Prop} (whole : ∀ s m, Passes [c] {} s m → P s)
    (cut : ∀ part rest, Passes [c] {} part {} → P rest → P (part ++ c :: rest)) (s : List Char) :
    P s := by
  obtain ⟨m, hs⟩ | ⟨part, rest, rfl, hpart⟩ := passes_or_cut c {} s
  · exact whole s m hs
  · exact cut part rest hpart (topLevel_induction whole cut rest)
termination_by s.length

/-! ## The parts of a text -/

section Parts

variable (hquote : isQuote c = false) (hopen : c ≠ '(')
include hquote hopen

theorem Nesting.step_separator : step {} c = {} := by
  by_cases hclose : c = ')'
  · rw [hclose]
    exact step_close
  · exact step_plain hquote hopen hclose

theorem joinWith_splitTopLevel (text : List Char) :
    joinWith [c] (splitTopLevel [c] text) = text := by
  induction text using topLevel_induction (c := c) with
  | whole text m h =>
    rw [h.splitTopLevel]
    rfl
  | cut part rest hpart ih =>
    obtain ⟨next, parts, hparts⟩ := List.exists_cons_of_ne_nil (splitTopLevel_ne_nil [c] rest)
    rw [hparts] at ih
    rw [hpart.splitTopLevel_cons hquote hopen, hparts, joinWith_cons_cons, ih,
      List.singleton_append]

/-- Every part passes, and what stands in front of a separator closes what it opens. -/
theorem passes_splitTopLevel (text : List Char) :
    (∀ part ∈ splitTopLevel [c] text, ∃ m, Passes [c] {} part m) ∧
      ∀ part ∈ (splitTopLevel [c] text).dropLast, Passes [c] {} part {} := by
  induction text using topLevel_induction (c := c) with
  | whole text m h =>
    rw [h.splitTopLevel]
    exact ⟨fun part hpart => ⟨m, List.mem_singleton.1 hpart ▸ h⟩, by simp⟩
  | cut first rest hfirst ih =>
    rw [hfirst.splitTopLevel_cons hquote hopen,
      List.dropLast_cons_of_ne_nil (splitTopLevel_ne_nil [c] rest)]
    exact ⟨List.forall_mem_cons.2 ⟨⟨{}, hfirst⟩, ih.1⟩, List.forall_mem_cons.2 ⟨hfirst, ih.2⟩⟩

/-- A text that does not split passes. -/
theorem passes_of_splitTopLevel_eq (h : splitTopLevel [c] s = [s]) : ∃ m, Passes [c] {} s m := by
  have hpart := (passes_splitTopLevel hquote hopen s).1 s
  rw [h] at hpart
  exact hpart List.mem_cons_self

/-- A separator behind a closed text splits. -/
theorem splitTopLevel_append_of_closed (hs : Closed s) (t : List Char) :
    splitTopLevel [c] (s ++ c :: t) = splitTopLevel [c] s ++ splitTopLevel [c] t := by
  rw [closed_iff] at hs
  induction s using topLevel_induction (c := c) with
  | whole s m h =>
    obtain rfl : {} = m := hs.symm.trans h.after_eq
    rw [h.splitTopLevel_cons hquote hopen, h.splitTopLevel, List.singleton_append]
  | cut part rest hpart ih =>
    rw [after_append, hpart.after_eq, after_cons, step_separator hquote hopen] at hs
    rw [List.append_assoc, List.cons_append, hpart.splitTopLevel_cons hquote hopen,
      hpart.splitTopLevel_cons hquote hopen, ih hs, List.cons_append]

/-- A separator behind a text that is not closed belongs to the part in which the text ends. -/
theorem splitTopLevel_append_of_not_closed (hs : ¬ Closed s) (t : List Char) :
    ∃ front part rest back, splitTopLevel [c] s = front ++ [part] ∧
      splitTopLevel [c] (s ++ c :: t) = front ++ (part ++ c :: rest) :: back := by
  rw [closed_iff] at hs
  induction s using topLevel_induction (c := c) with
  | whole s m h =>
    have hstays : m.separates [c] c = false := by
      rw [Bool.eq_false_iff]
      intro hcut
      exact hs (h.after_eq.trans (eq_of_separates hcut).1)
    have hlonger : Passes [c] {} (s ++ [c]) (m.step c) := h.append ⟨hstays, rfl⟩
    have hne : splitFrom [c] (m.step c) t ≠ [] := splitFrom_ne_nil (m.step c) t
    obtain ⟨rest, back, hback⟩ := List.exists_cons_of_ne_nil hne
    have hsplit := hlonger.splitFrom t
    rw [List.append_assoc, List.singleton_append, hback] at hsplit
    refine ⟨[], s, rest, back, h.splitTopLevel, ?_⟩
    rw [splitTopLevel, hsplit, extendFirst, List.append_assoc]
    rfl
  | cut part rest hpart ih =>
    rw [after_append, hpart.after_eq, after_cons, step_separator hquote hopen] at hs
    obtain ⟨front, last, more, back, hrest, hlonger⟩ := ih hs
    refine ⟨part :: front, last, more, back, ?_, ?_⟩
    · rw [hpart.splitTopLevel_cons hquote hopen, hrest, List.cons_append]
    · rw [List.append_assoc, List.cons_append, hpart.splitTopLevel_cons hquote hopen, hlonger,
        List.cons_append]

end Parts

/-- A separator may be any character but a quote and an opening parenthesis.  The parts of a text
    are the one way to write it as one or more texts joined by the separator, each of which is its
    own only part and all but the last of which are closed.  A text in which a separator stands
    behind a closed text has the parts of both sides; a separator in quotes or parentheses goes
    on with the part in which it stands. -/
theorem splitTopLevel_inverts_joinWith (hquote : isQuote c = false) (hopen : c ≠ '(') :
    (∀ text parts, splitTopLevel [c] text = parts ↔
      parts ≠ [] ∧ joinWith [c] parts = text ∧
        (∀ part ∈ parts, splitTopLevel [c] part = [part]) ∧
        ∀ part ∈ parts.dropLast, Closed part) ∧
    (∀ a b, Closed a →
      splitTopLevel [c] (a ++ c :: b) = splitTopLevel [c] a ++ splitTopLevel [c] b) ∧
    ∀ a b, ¬ Closed a → ∃ front part rest back, splitTopLevel [c] a = front ++ [part] ∧
      splitTopLevel [c] (a ++ c :: b) = front ++ (part ++ c :: rest) :: back := by
  refine ⟨fun text parts => ⟨?_, ?_⟩, fun a b ha => ?_, fun a b ha => ?_⟩
  · rintro rfl
    obtain ⟨hpasses, hclosed⟩ := passes_splitTopLevel hquote hopen text
    refine ⟨splitTopLevel_ne_nil [c] text, joinWith_splitTopLevel hquote hopen text,
      fun part hpart => ?_, fun part hpart => closed_of_after (hclosed part hpart).after_eq⟩
    obtain ⟨m, hm⟩ := hpasses part hpart
    exact hm.splitTopLevel
  · rintro ⟨hne, rfl, halone, hclosed⟩
    have hpasses := fun part hpart => passes_of_splitTopLevel_eq hquote hopen (halone part hpart)
    refine splitTopLevel_joinWith_of_dropLast hquote hopen hne hpasses fun part hpart => ?_
    obtain ⟨m, hm⟩ := hpasses part (List.dropLast_subset parts hpart)
    obtain rfl : m = {} := hm.after_eq.symm.trans (hclosed part hpart).after
    exact hm
  · exact splitTopLevel_append_of_closed hquote hopen ha b
  · exact splitTopLevel_append_of_not_closed hquote hopen ha b

/-- A bar in quotes, a parenthesis that closes nothing, and a last part that stays open. -/
theorem splitTopLevel_inverts_joinWith_bar :
    isQuote '|' = false ∧ '|' ≠ '(' ∧
      splitTopLevel ['|'] "f('a|b'))|g(\"".toList = ["f('a|b'))".toList, "g(\"".toList] ∧
      Closed "f('a|b'))".toList ∧
      splitTopLevel ['|'] ("f('a|b'))".toList ++ '|' :: "g(\"".toList) =
        splitTopLevel ['|'] "f('a|b'))".toList ++ splitTopLevel ['|'] "g(\"".toList ∧
      ¬ Closed "f('a".toList ∧
      ∃ front part rest back, splitTopLevel ['|'] "f('a".toList = front ++ [part] ∧
        splitTopLevel ['|'] ("f('a".toList ++ '|' :: "b'))|g(\"".toList) =
          front ++ (part ++ '|' :: rest) :: back := by
  have hquote : isQuote '|' = false := by decide
  have hopen : '|' ≠ '(' := by decide
  have hclosed : Closed "f('a|b'))".toList := by decide
  have hnot : ¬ Closed "f('a".toList := by decide
  obtain ⟨hparts, hcut, hinside⟩ := splitTopLevel_inverts_joinWith hquote hopen
  exact ⟨hquote, hopen, (hparts _ _).2 ⟨by decide, by decide, by decide, by decide⟩, hclosed,
    hcut _ _ hclosed, hnot, hinside _ _ hnot⟩

end RecordTemplate.Template
