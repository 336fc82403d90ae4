/-
  RecordTemplate.Proofs.Filter.Stripping

  Texts without tags.  What is left of a text holds no `<` with a `>` anywhere behind it
  (`Tagless`).  It is what is left when the first tag is taken out of the text again and again
  (`TakesOut`), where every search begins anew: nothing before the first tag is a `<`, so the
  pieces on both sides of a tag never come together to a new one.

  A beginning of such a text is such a text, so a shortened text holds no tag before its suffix
  (`stripTags_complete`).
-/

import Mathlib.Logic.Relation
import Mathlib.Tactic.Common
import RecordTemplate.Filter.Text
import RecordTemplate.Proofs.Text.Search

namespace RecordTemplate

namespace Text

variable {s t before inside rest : List Char}

/-! ## Texts that hold no tag -/

/-- No `<` is followed by a `>`, however far behind it. -/
def Tagless (s : List Char) : Prop := s.Pairwise fun a b => ¬ (a = '<' ∧ b = '>')

theorem tagless_of_not_mem_open (h : '<' ∉ s) : Tagless s := by
  refine List.pairwise_iff_forall_sublist.2 fun {a b} hab hpair => h ?_
  rw [← hpair.1]
  exact hab.subset List.mem_cons_self

theorem tagless_of_not_mem_close (h : '>' ∉ s) : Tagless s := by
  refine List.pairwise_iff_forall_sublist.2 fun {a b} hab hpair => h ?_
  rw [← hpair.2]
  exact hab.subset (List.mem_cons_of_mem _ List.mem_cons_self)

/-- Behind a text without `<`, a text is as free of tags as it is alone. -/
theorem tagless_append_iff (hbefore : '<' ∉ before) : Tagless (before ++ rest) ↔ Tagless rest := by
  unfold Tagless
  rw [List.pairwise_append]
  refine ⟨fun h => h.2.1, fun h => ⟨tagless_of_not_mem_open hbefore, h, ?_⟩⟩
  rintro a ha b - ⟨rfl, -⟩
  exact hbefore ha

theorem tagless_cons_open_iff : Tagless ('<' :: s) ↔ '>' ∉ s := by
  unfold Tagless
  rw [List.pairwise_cons]
  constructor
  · intro h hmem
    exact h.1 '>' hmem ⟨rfl, rfl⟩
  · intro h
    refine ⟨?_, tagless_of_not_mem_close h⟩
    rintro b hb ⟨-, rfl⟩
    exact h hb

/-! ## The first tag -/

/-- `t` is `s` without its first tag, which goes from the first `<` to the first `>` behind it. -/
def TakesOut (s t : List Char) : Prop :=
  ∃ before inside rest, '<' ∉ before ∧ '>' ∉ inside ∧
    s = before ++ '<' :: (inside ++ '>' :: rest) ∧ t = before ++ rest

theorem TakesOut.length_lt (h : TakesOut s t) : t.length < s.length := by
  obtain ⟨before, inside, rest, -, -, rfl, rfl⟩ := h
  simp only [List.length_append, List.length_cons]
  omega

theorem TakesOut.sublist (h : TakesOut s t) : t.Sublist s := by
  obtain ⟨before, inside, rest, -, -, rfl, rfl⟩ := h
  have htag : rest.Sublist ('<' :: (inside ++ '>' :: rest)) :=
    ((List.sublist_cons_self '>' rest).trans (List.sublist_append_right inside _)).cons '<'
  exact (List.Sublist.refl before).append htag

/-- A text with a tag has a first one. -/
theorem exists_takesOut (h : ¬ Tagless s) : ∃ t, TakesOut s t := by
  have hopen : '<' ∈ s := by
    by_contra hno
    exact h (tagless_of_not_mem_open hno)
  obtain ⟨before, behind, rfl, hbefore⟩ := List.eq_append_cons_of_mem hopen
  rw [tagless_append_iff hbefore, tagless_cons_open_iff, not_not] at h
  obtain ⟨inside, rest, rfl, hinside⟩ := List.eq_append_cons_of_mem h
  exact ⟨before ++ rest, before, inside, rest, hbefore, hinside, rfl, rfl⟩

/-! ## Stripping -/

/-- What stands before the first `<` stays. -/
theorem stripTags_append (hbefore : '<' ∉ before) (rest : List Char) :
    stripTags (before ++ rest) = before ++ stripTags rest := by
  induction before with
  | nil => rfl
  | cons c before ih =>
    obtain ⟨hc, hbefore⟩ := List.ne_and_not_mem_of_not_mem_cons hbefore
    rw [List.cons_append, stripTags, if_neg (Ne.symm hc), ih hbefore, List.cons_append]

theorem stripTags_tag (hinside : '>' ∉ inside) :
    stripTags ('<' :: (inside ++ '>' :: rest)) = stripTags rest := by
  rw [stripTags, if_pos rfl]
  split
  · next _ _ hcut =>
    rw [cut?_singleton hinside] at hcut
    cases hcut
    rfl
  · next hcut =>
    rw [cut?_singleton hinside] at hcut
    cases hcut

/-- A `<` that nothing closes stays, with all that follows. -/
theorem stripTags_of_not_mem_close (h : '>' ∉ s) : stripTags ('<' :: s) = '<' :: s := by
  rw [stripTags, if_pos rfl]
  split
  · next _ _ hcut =>
    rw [cut?_singleton_eq_none.2 h] at hcut
    cases hcut
  · rfl

/-- A text may be searched anew after its first tag is taken out. -/
theorem TakesOut.stripTags_eq (h : TakesOut s t) : stripTags s = stripTags t := by
  obtain ⟨before, inside, rest, hbefore, hinside, rfl, rfl⟩ := h
  rw [stripTags_append hbefore, stripTags_append hbefore, stripTags_tag hinside]

theorem Tagless.stripTags_eq (h : Tagless s) : stripTags s = s := by
  by_cases hopen : '<' ∈ s
  · obtain ⟨before, behind, rfl, hbefore⟩ := List.eq_append_cons_of_mem hopen
    rw [tagless_append_iff hbefore, tagless_cons_open_iff] at h
    rw [stripTags_append hbefore, stripTags_of_not_mem_close h]
  · have hnil : stripTags [] = [] := by rw [stripTags]
    have hself := stripTags_append hopen []
    rwa [List.append_nil, hnil, List.append_nil] at hself

/-- Taking out the first tag again and again comes to an end, and the end holds no tag. -/
theorem stripTags_spec (s : List Char) :
    Relation.ReflTransGen TakesOut s (stripTags s) ∧ Tagless (stripTags s) := by
  -- a text gets shorter with every tag that is taken out of it
  induction hn : s.length using Nat.strongRecOn generalizing s with
  | ind n ih =>
    by_cases htagless : Tagless s
    · rw [htagless.stripTags_eq]
      exact ⟨.refl, htagless⟩
    · obtain ⟨t, ht⟩ := exists_takesOut htagless
      obtain ⟨hsteps, hend⟩ := ih t.length (hn ▸ ht.length_lt) t rfl
      rw [ht.stripTags_eq]
      exact ⟨.head ht hsteps, hend⟩

theorem sublist_of_takesOut (h : Relation.ReflTransGen TakesOut s t) : t.Sublist s := by
  induction h with
  | refl => exact List.Sublist.refl s
  | tail _ hstep ih => exact hstep.sublist.trans ih

theorem stripTags_eq_self_iff : stripTags s = s ↔ Tagless s := by
  constructor
  · intro h
    have hend := (stripTags_spec s).2
    rwa [h] at hend
  · exact Tagless.stripTags_eq

end Text

namespace Filter

open RecordTemplate.Text

/-! ## Shortened texts -/

/-- A shortened text is a beginning of the text, followed by the suffix if something is cut off. -/
theorem cutTo_eq (length : Nat) (suffix s : List Char) :
    cutTo length suffix s =
      s.take length ++ if s.take length = s then [] else suffix := by
  unfold cutTo
  by_cases h : s.length ≤ length
  · rw [if_pos h, List.take_of_length_le h, if_pos rfl, List.append_nil]
  · have hcut : s.take length ≠ s := by
      intro hall
      have := congrArg List.length hall
      rw [List.length_take] at this
      omega
    rw [if_neg h, if_neg hcut]

theorem truncated_eq_ok_iff {context : FilterContext} {v w : Value} {args : List String} :
    truncated.apply context v args = .ok w ↔ ∃ length, intArgument args 0 100 = .ok length ∧
      w = .text (String.ofList (cutTo length.toNat (textArgument args 1 "...").toList
        (stripTags v.render.toList))) := by
  show ((intArgument args 0 100).bind fun length => .ok (.text (String.ofList
    (cutTo length.toNat (textArgument args 1 "...").toList (stripTags v.render.toList))))) =
      .ok w ↔ _
  cases intArgument args 0 100 with
  | error e => simp [Except.bind]
  | ok length => simp [Except.bind, eq_comm]

/-- Stripping leaves part of a text, in its order, and no tag; it leaves a text as it is exactly
    if there is no tag, and so it leaves what it has left; and it leaves what is left when the first
    tag is taken out again and again.  What the filter for short texts keeps of a text is a
    beginning of the stripped text without any tag, and only where it cuts does a suffix follow. -/
theorem stripTags_complete :
    (∀ s, (stripTags s).Sublist s ∧ Tagless (stripTags s) ∧ (stripTags s = s ↔ Tagless s) ∧
      stripTags (stripTags s) = stripTags s ∧
      Relation.ReflTransGen TakesOut s (stripTags s)) ∧
    ∀ context v args w, truncated.apply context v args = .ok w ↔
      ∃ length kept, intArgument args 0 100 = .ok length ∧
        kept = (stripTags v.render.toList).take length.toNat ∧ Tagless kept ∧
        w = .text (String.ofList (kept ++
          if kept = stripTags v.render.toList then [] else (textArgument args 1 "...").toList)) := by
  constructor
  · intro s
    obtain ⟨hsteps, hend⟩ := stripTags_spec s
    exact ⟨sublist_of_takesOut hsteps, hend, stripTags_eq_self_iff, hend.stripTags_eq, hsteps⟩
  · intro context v args w
    have hkept : ∀ n, Tagless ((stripTags v.render.toList).take n) := by
      intro n
      have hend := (stripTags_spec v.render.toList).2
      exact List.Pairwise.sublist (List.take_sublist n _) hend
    rw [truncated_eq_ok_iff]
    constructor
    · rintro ⟨length, hlength, rfl⟩
      exact ⟨length, _, hlength, rfl, hkept _, by rw [cutTo_eq]⟩
    · rintro ⟨length, _, hlength, rfl, -, rfl⟩
      exact ⟨length, hlength, by rw [cutTo_eq]⟩

/-- Brackets within brackets: what is left of two tags is never a third one. -/
example : stripTags "<a<b>c> <<b>b>".toList = "c> b>".toList := by cbv

end Filter
end RecordTemplate
