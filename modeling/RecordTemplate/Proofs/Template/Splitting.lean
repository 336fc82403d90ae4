/-
  RecordTemplate.Proofs.Template.Splitting

  What the splitting of chains and argument lists makes of a text that is put together from
  parts.  A text passes if no separator stands in it outside quotes and parentheses; texts that
  pass and close what they open are the parts again that they were joined from
  (`splitTopLevel_joinWith`).
-/

import RecordTemplate.Proofs.Text.Search
import RecordTemplate.Template.Chain

namespace RecordTemplate.Template

open RecordTemplate.Text

/-! ## Steps of the nesting -/

namespace Nesting

variable {depth : Nat} {c q : Char}

theorem step_plain (hquote : isQuote c = false) (hopen : c ≠ '(') (hclose : c ≠ ')') :
    step ⟨none, depth⟩ c = ⟨none, depth⟩ := by
  simp [step, hquote, hopen, hclose]

theorem step_quote (hq : isQuote q = true) : step ⟨none, depth⟩ q = ⟨some q, depth⟩ := by
  simp [step, hq]

theorem step_inside (hne : c ≠ q) : step ⟨some q, depth⟩ c = ⟨some q, depth⟩ := by
  simp [step, hne]

theorem step_unquote : step ⟨some q, depth⟩ q = ⟨none, depth⟩ := by simp [step]

theorem step_open : step ⟨none, depth⟩ '(' = ⟨none, depth + 1⟩ := by simp [step, isQuote]

theorem step_close : step ⟨none, depth⟩ ')' = ⟨none, depth - 1⟩ := by simp [step, isQuote]

end Nesting

variable {separator : List Char}

/-! ## Texts without a separator -/

/-- Whether a text leads from one nesting to another without a separator on the way. -/
def Passes (separator : List Char) : Nesting → List Char → Nesting → Prop
  | n, [], m => n = m
  | n, c :: s, m => n.separates separator c = false ∧ Passes separator (n.step c) s m

theorem Passes.append {n m k : Nesting} {s t : List Char} (hs : Passes separator n s m)
    (ht : Passes separator m t k) : Passes separator n (s ++ t) k := by
  induction s generalizing n with
  | nil =>
    obtain rfl : n = m := hs
    exact ht
  | cons c s ih => exact ⟨hs.1, ih hs.2⟩

/-- A part with a text in front of its first piece. -/
def extendFirst (s : List Char) : List (List Char) → List (List Char)
  | [] => [s]
  | part :: parts => (s ++ part) :: parts

theorem splitFrom_ne_nil (n : Nesting) (s : List Char) : splitFrom separator n s ≠ [] := by
  cases s with
  | nil => simp [splitFrom]
  | cons c s =>
    unfold splitFrom
    split
    · simp
    · split
      · simp
      · simp

/-- A text that passes belongs to the first part. -/
theorem Passes.splitFrom {n m : Nesting} {s : List Char} (hs : Passes separator n s m)
    (t : List Char) :
    splitFrom separator n (s ++ t) = extendFirst s (splitFrom separator m t) := by
  induction s generalizing n with
  | nil =>
    obtain rfl : n = m := hs
    obtain ⟨part, parts, hparts⟩ := List.exists_cons_of_ne_nil (splitFrom_ne_nil n t)
    rw [List.nil_append, hparts]
    rfl
  | cons c s ih =>
    obtain ⟨hc, hs⟩ := hs
    obtain ⟨part, parts, hparts⟩ := List.exists_cons_of_ne_nil (splitFrom_ne_nil m t)
    have hrest := ih hs
    rw [hparts] at hrest ⊢
    rw [List.cons_append, Template.splitFrom, if_neg (by simp [hc]), hrest]
    rfl

/-- A text that passes is one part. -/
theorem Passes.splitTopLevel {m : Nesting} {s : List Char} (hs : Passes separator {} s m) :
    splitTopLevel separator s = [s] := by
  have hsplit := hs.splitFrom []
  rw [List.append_nil] at hsplit
  rw [Template.splitTopLevel, hsplit]
  simp [extendFirst, Template.splitFrom]

/-- A separator behind a text that passes and closes what it opens cuts off that text. -/
theorem Passes.splitTopLevel_cons {c : Char} (hquote : isQuote c = false) (hopen : c ≠ '(')
    {part : List Char} (hpart : Passes [c] {} part {}) (rest : List Char) :
    Template.splitTopLevel [c] (part ++ c :: rest) = part :: Template.splitTopLevel [c] rest := by
  have hcut : Nesting.separates {} [c] c = true := by simp [Nesting.separates, hquote, hopen]
  rw [Template.splitTopLevel, hpart.splitFrom, Template.splitFrom, if_pos hcut, extendFirst,
    List.append_nil, Template.splitTopLevel]

/-- Parts that pass are split where they were joined, if all but the last close what they open. -/
theorem splitTopLevel_joinWith_of_dropLast {c : Char} (hquote : isQuote c = false)
    (hopen : c ≠ '(') {parts : List (List Char)} (hne : parts ≠ [])
    (h : ∀ part ∈ parts, ∃ m, Passes [c] {} part m)
    (hclosed : ∀ part ∈ parts.dropLast, Passes [c] {} part {}) :
    splitTopLevel [c] (joinWith [c] parts) = parts := by
  induction parts with
  | nil => exact absurd rfl hne
  | cons part parts ih =>
    cases parts with
    | nil =>
      obtain ⟨m, hpart⟩ := h part List.mem_cons_self
      exact hpart.splitTopLevel
    | cons next parts =>
      rw [List.dropLast_cons_cons] at hclosed
      have hpart := hclosed part List.mem_cons_self
      have hrest := ih (by simp) (fun p hp => h p (List.mem_cons_of_mem _ hp))
        fun p hp => hclosed p (List.mem_cons_of_mem _ hp)
      rw [joinWith_cons_cons, List.singleton_append, hpart.splitTopLevel_cons hquote hopen, hrest]

/-- Parts that pass and close what they open are split where they were joined. -/
theorem splitTopLevel_joinWith {c : Char} (hquote : isQuote c = false) (hopen : c ≠ '(')
    {parts : List (List Char)} (hne : parts ≠ []) (h : ∀ part ∈ parts, Passes [c] {} part {}) :
    splitTopLevel [c] (joinWith [c] parts) = parts :=
  splitTopLevel_joinWith_of_dropLast hquote hopen hne (fun part hpart => ⟨{}, h part hpart⟩)
    fun part hpart => h part (List.dropLast_subset parts hpart)

/-! ## What passes -/

/-- A text without quotes and parentheses passes if it holds no separator, or inside
    parentheses. -/
theorem passes_plain {n : Nesting} (hn : n.quote = none) {s : List Char}
    (h : ∀ c ∈ s, isQuote c = false ∧ c ≠ '(' ∧ c ≠ ')' ∧ (n.depth = 0 → separator ≠ [c])) :
    Passes separator n s n := by
  obtain ⟨quote, depth⟩ := n
  obtain rfl : quote = none := hn
  induction s with
  | nil => rfl
  | cons c s ih =>
    obtain ⟨hquote, hopen, hclose, hsep⟩ := h c List.mem_cons_self
    have hstays : Nesting.separates ⟨none, depth⟩ separator c = false := by
      by_cases hdepth : depth = 0
      · simp [Nesting.separates, hsep hdepth]
      · simp [Nesting.separates, hdepth]
    refine ⟨hstays, ?_⟩
    rw [Nesting.step_plain hquote hopen hclose]
    exact ih fun d hd => h d (List.mem_cons_of_mem _ hd)

/-- A string in quotes passes. -/
theorem passes_quoted {q : Char} (hq : isQuote q = true) {inner : List Char} (hinner : q ∉ inner)
    (depth : Nat) : Passes separator ⟨none, depth⟩ (q :: (inner ++ [q])) ⟨none, depth⟩ := by
  have hinside : Passes separator ⟨some q, depth⟩ (inner ++ [q]) ⟨none, depth⟩ := by
    induction inner with
    | nil => exact ⟨rfl, Nesting.step_unquote⟩
    | cons c inner ih =>
      obtain ⟨hne, hmem⟩ := List.ne_and_not_mem_of_not_mem_cons hinner
      refine ⟨rfl, ?_⟩
      rw [Nesting.step_inside (Ne.symm hne)]
      exact ih hmem
  refine ⟨by simp [Nesting.separates, hq], ?_⟩
  rw [Nesting.step_quote hq]
  exact hinside

/-- What passes inside parentheses passes with them. -/
theorem Passes.parenthesised {depth : Nat} {s : List Char}
    (hs : Passes separator ⟨none, depth + 1⟩ s ⟨none, depth + 1⟩) :
    Passes separator ⟨none, depth⟩ ('(' :: (s ++ [')'])) ⟨none, depth⟩ := by
  have hclose : Passes separator ⟨none, depth + 1⟩ [')'] ⟨none, depth⟩ :=
    ⟨by simp [Nesting.separates], Nesting.step_close⟩
  refine ⟨by simp [Nesting.separates], ?_⟩
  rw [Nesting.step_open]
  exact hs.append hclose

end RecordTemplate.Template
