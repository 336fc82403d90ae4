/-
  RecordTemplate.Proofs.Text.Search

  What the searching functions find.  A span ends where the first character of another class
  stands (`takeWhile_span`, `dropWhile_span`), trimming takes off exactly the white space around
  a text (`trim_padded`), and a cut is made at the first occurrence of a piece
  (`cut?_eq_some_iff`).  Parts are split where they were joined if the separator neither occurs
  nor begins in them (`splitOn_joinWith_of_endsAt`).
-/

import RecordTemplate.Text.Search

namespace RecordTemplate.Text

/-- What is asked of all characters of a text is decided for one after the other. -/
instance decidableForallMem (s : List Char) (p : Char → Prop) [DecidablePred p] :
    Decidable (∀ c ∈ s, p c) :=
  List.decidableBAll p s

/-! ## Spans -/

section Spans

variable {α : Type} {p : α → Bool} {span rest : List α}

/-- A span is taken as a whole if the character after it is of another class. -/
theorem takeWhile_span (hspan : ∀ c ∈ span, p c = true)
    (hrest : ∀ c, rest.head? = some c → p c = false) : (span ++ rest).takeWhile p = span := by
  rw [List.takeWhile_append_of_pos hspan]
  cases rest with
  | nil => rw [List.takeWhile_nil, List.append_nil]
  | cons c rest =>
    have hc : p c = false := hrest c rfl
    rw [List.takeWhile_cons_of_neg (by simp [hc]), List.append_nil]

/-- What follows a span is left. -/
theorem dropWhile_span (hspan : ∀ c ∈ span, p c = true)
    (hrest : ∀ c, rest.head? = some c → p c = false) : (span ++ rest).dropWhile p = rest := by
  rw [List.dropWhile_append_of_pos hspan]
  cases rest with
  | nil => rfl
  | cons c rest =>
    have hc : p c = false := hrest c rfl
    rw [List.dropWhile_cons_of_neg (by simp [hc])]

end Spans

/-! ## Trimming -/

/-- A text that neither begins nor ends with white space. -/
structure IsTrimmed (s : List Char) : Prop where
  first : ∀ c, s.head? = some c → isSpace c = false
  last : ∀ c, s.getLast? = some c → isSpace c = false

theorem trimRightBy_append {p : Char → Bool} {s after : List Char}
    (hs : ∀ c, s.getLast? = some c → p c = false) (hafter : ∀ c ∈ after, p c = true) :
    trimRightBy p (s ++ after) = s := by
  have hspan : ∀ c ∈ after.reverse, p c = true := by
    intro c hc
    exact hafter c (List.mem_reverse.1 hc)
  have hrest : ∀ c, s.reverse.head? = some c → p c = false := by
    intro c hc
    rw [List.head?_reverse] at hc
    exact hs c hc
  rw [trimRightBy, List.reverse_append, dropWhile_span hspan hrest, List.reverse_reverse]

/-- White space around a text is taken off, and nothing else. -/
theorem trim_padded {before s after : List Char} (hbefore : ∀ c ∈ before, isSpace c = true)
    (hafter : ∀ c ∈ after, isSpace c = true) (hs : IsTrimmed s) :
    trim (before ++ (s ++ after)) = s := by
  cases s with
  | nil =>
    have hall : ∀ c ∈ before ++ after, isSpace c = true := by
      intro c hc
      rcases List.mem_append.1 hc with hc | hc
      · exact hbefore c hc
      · exact hafter c hc
    have hdrop : (before ++ after).dropWhile isSpace = [] := by
      have := @dropWhile_span Char isSpace (before ++ after) [] hall (by simp)
      rwa [List.append_nil] at this
    rw [List.nil_append, trim, trimBy, hdrop]
    rfl
  | cons c s =>
    have hfirst : ∀ d, (c :: s ++ after).head? = some d → isSpace d = false := by
      intro d hd
      exact hs.first d hd
    rw [trim, trimBy, dropWhile_span hbefore hfirst, trimRightBy_append hs.last hafter]

theorem forall_of_dropWhile_eq_nil {p : Char → Bool} {s : List Char}
    (h : s.dropWhile p = []) : ∀ c ∈ s, p c = true := by
  have hs := List.takeWhile_append_dropWhile (p := p) (l := s)
  rw [h, List.append_nil] at hs
  rw [← hs]
  exact List.all_eq_true.1 List.all_takeWhile

/-- Trimming leaves something of a text with a character that is no white space. -/
theorem trim_ne_nil {s : List Char} {c : Char} (hc : c ∈ s) (hspace : isSpace c = false) :
    trim s ≠ [] := by
  intro h
  have hall : ∀ d ∈ s.dropWhile isSpace, isSpace d = true := by
    intro d hd
    have hnil : (s.dropWhile isSpace).reverse.dropWhile isSpace = [] := List.reverse_eq_nil_iff.1 h
    exact forall_of_dropWhile_eq_nil hnil d (List.mem_reverse.2 hd)
  have hsplit := List.takeWhile_append_dropWhile (p := isSpace) (l := s)
  have htrue : isSpace c = true := by
    rw [← hsplit] at hc
    rcases List.mem_append.1 hc with hc | hc
    · exact List.all_eq_true.1 List.all_takeWhile c hc
    · exact hall c hc
  rw [hspace] at htrue
  cases htrue

/-! ## White space at the ends -/

section Ends

variable {p : Char → Bool} {s after : List Char}

theorem dropWhile_eq_self (h : ∀ c, s.head? = some c → p c = false) : s.dropWhile p = s := by
  simpa using @dropWhile_span Char p [] s (by simp) h

/-- What is dropped from the front of a text does not depend on a text behind it that does not
    go on with the class. -/
theorem dropWhile_append_of_head (h : ∀ c, after.head? = some c → p c = false) :
    (s ++ after).dropWhile p = s.dropWhile p ++ after := by
  induction s with
  | nil => rw [List.nil_append, dropWhile_eq_self h, List.dropWhile_nil, List.nil_append]
  | cons c s ih =>
    cases hc : p c with
    | true =>
      rw [List.cons_append, List.dropWhile_cons_of_pos hc, ih, List.dropWhile_cons_of_pos hc]
    | false =>
      rw [List.cons_append, List.dropWhile_cons_of_neg (by simp [hc]),
        List.dropWhile_cons_of_neg (by simp [hc]), List.cons_append]

theorem trimRightBy_append_of_forall (h : ∀ c ∈ after, p c = true) :
    trimRightBy p (s ++ after) = trimRightBy p s := by
  have hreverse : ∀ c ∈ after.reverse, p c = true := fun c hc => h c (List.mem_reverse.1 hc)
  rw [trimRightBy, List.reverse_append, List.dropWhile_append_of_pos hreverse, trimRightBy]

theorem trimRightBy_of_forall (h : ∀ c ∈ s, p c = true) : trimRightBy p s = [] := by
  have := trimRightBy_append_of_forall (s := []) h
  simpa [trimRightBy] using this

/-- White space behind a text is trimmed off with the rest. -/
theorem trimBy_append_of_forall (h : ∀ c ∈ after, p c = true) :
    trimBy p (s ++ after) = trimBy p s := by
  induction s with
  | nil =>
    have hdrop : after.dropWhile p = [] := by
      simpa using @dropWhile_span Char p after [] h (by simp)
    rw [List.nil_append, trimBy, trimBy, hdrop, List.dropWhile_nil]
  | cons c s ih =>
    cases hc : p c with
    | true =>
      rw [List.cons_append, trimBy, trimBy, List.dropWhile_cons_of_pos hc,
        List.dropWhile_cons_of_pos hc]
      exact ih
    | false =>
      rw [List.cons_append, trimBy, trimBy, List.dropWhile_cons_of_neg (by simp [hc]),
        List.dropWhile_cons_of_neg (by simp [hc]), ← List.cons_append,
        trimRightBy_append_of_forall h]

end Ends

/-! ## First occurrences -/

/-- `before` and `rest` are what stands around the first occurrence of `piece` in `s`. -/
structure IsFirstCut (piece s before rest : List Char) : Prop where
  split : s = before ++ (piece ++ rest)
  first : ∀ b r, s = b ++ (piece ++ r) → before.length ≤ b.length

theorem cut?_isSome_of_split {piece s : List Char} (b r : List Char) (h : s = b ++ (piece ++ r)) :
    (cut? piece s).isSome = true := by
  induction b generalizing s with
  | nil =>
    have hafter : after? piece s = some r := after?_eq_some_iff.2 (by simpa using h)
    unfold cut?
    rw [hafter]
    rfl
  | cons c b ih =>
    subst h
    unfold cut?
    split
    · rfl
    · have := ih rfl
      simpa using this

/-- A cut is made wherever the piece occurs. -/
theorem cut?_isSome_iff {piece s : List Char} :
    (cut? piece s).isSome = true ↔ ∃ b r, s = b ++ (piece ++ r) := by
  constructor
  · intro h
    obtain ⟨⟨b, r⟩, hcut⟩ := Option.isSome_iff_exists.1 h
    refine ⟨b, r, ?_⟩
    rw [← List.append_assoc]
    exact eq_of_cut? hcut
  · rintro ⟨b, r, h⟩
    exact cut?_isSome_of_split b r h

/-- The cut is made at the first occurrence of the piece. -/
theorem length_le_of_cut? {piece s before rest : List Char}
    (h : cut? piece s = some (before, rest)) (b r : List Char) (hs : s = b ++ (piece ++ r)) :
    before.length ≤ b.length := by
  induction s generalizing before b with
  | nil =>
    have hnil := eq_of_cut? h
    have : before = [] := by
      rw [List.append_assoc] at hnil
      exact (List.append_eq_nil_iff.1 hnil.symm).1
    rw [this]
    exact Nat.zero_le _
  | cons c s ih =>
    unfold cut? at h
    split at h
    · cases h
      exact Nat.zero_le _
    · next hnone =>
      obtain ⟨⟨before', rest'⟩, hcut, he⟩ := Option.map_eq_some_iff.1 h
      cases he
      cases b with
      | nil =>
        -- the piece does not stand at the beginning
        have hafter : after? piece (c :: s) = some r := after?_eq_some_iff.2 (by simpa using hs)
        rw [hnone] at hafter
        cases hafter
      | cons d b =>
        have hs' : s = b ++ (piece ++ r) := (List.cons.inj hs).2
        have := ih hcut b hs'
        simpa using this

theorem cut?_eq_some_iff {piece s before rest : List Char} :
    cut? piece s = some (before, rest) ↔ IsFirstCut piece s before rest := by
  constructor
  · intro h
    refine ⟨?_, length_le_of_cut? h⟩
    rw [← List.append_assoc]
    exact eq_of_cut? h
  · intro h
    obtain ⟨⟨b, r⟩, hcut⟩ :=
      Option.isSome_iff_exists.1 (cut?_isSome_of_split before rest h.split)
    have hsplit : s = b ++ (piece ++ r) := by
      rw [← List.append_assoc]
      exact eq_of_cut? hcut
    -- two first occurrences are the same
    have hlength : b.length = before.length := by
      have h₁ := length_le_of_cut? hcut before rest h.split
      have h₂ := h.first b r hsplit
      omega
    obtain ⟨rfl, hrest⟩ := List.append_inj (hsplit.symm.trans h.split) hlength
    rw [hcut, List.append_cancel_left hrest]

/-- Before the first occurrence of a piece there is no other one. -/
theorem IsFirstCut.not_infix {piece s before rest : List Char}
    (h : IsFirstCut piece s before rest) (hpiece : piece ≠ []) : ¬ piece <:+: before := by
  rintro ⟨b, r, hbefore⟩
  have hs : s = b ++ (piece ++ (r ++ (piece ++ rest))) := by
    rw [h.split, ← hbefore]
    simp only [List.append_assoc]
  have hle : before.length ≤ b.length := h.first b _ hs
  have hlength := congrArg List.length hbefore
  have hpos : 0 < piece.length := List.length_pos_iff.2 hpiece
  simp only [List.length_append] at hlength
  omega

theorem cut?_singleton_eq_none {c : Char} {s : List Char} : cut? [c] s = none ↔ c ∉ s := by
  rw [← Option.not_isSome_iff_eq_none, cut?_isSome_iff]
  exact not_congr List.mem_iff_append.symm

/-- A text is cut at a character that stands in what follows it only. -/
theorem cut?_singleton {c : Char} {s : List Char} (h : c ∉ s) (rest : List Char) :
    cut? [c] (s ++ c :: rest) = some (s, rest) := by
  induction s with
  | nil => simp [cut?, after?]
  | cons d s ih =>
    obtain ⟨hne, hmem⟩ := List.ne_and_not_mem_of_not_mem_cons h
    rw [List.cons_append, cut?]
    simp [after?, hne, ih hmem]

/-- What stands before a character that it does not hold is told by the text. -/
theorem eq_of_append_cons {c : Char} {s s' t t' : List Char} (hs : c ∉ s) (hs' : c ∉ s')
    (h : s ++ c :: t = s' ++ c :: t') : s = s' ∧ t = t' := by
  have hcut := cut?_singleton hs t
  rw [h, cut?_singleton hs' t'] at hcut
  simpa [eq_comm] using hcut

/-- Before its first occurrence a character does not occur. -/
theorem IsFirstCut.not_mem {c : Char} {s before rest : List Char}
    (h : IsFirstCut [c] s before rest) : c ∉ before := by
  intro hmem
  obtain ⟨a, b, rfl⟩ := List.mem_iff_append.1 hmem
  exact h.not_infix (by simp) ⟨a, b, by simp⟩

theorem after?_singleton_eq_none {c : Char} {s : List Char} (h : c ∉ s) : after? [c] s = none := by
  rw [Option.eq_none_iff_forall_ne_some]
  intro rest hrest
  rw [after?_eq_some_iff.1 hrest] at h
  exact h List.mem_cons_self

/-! ## Joining -/

theorem joinWith_cons_cons (separator s t : List Char) (rest : List (List Char)) :
    joinWith separator (s :: t :: rest) =
      s ++ (separator ++ joinWith separator (t :: rest)) := by
  rw [← List.append_assoc]
  rfl

/-- What holds of all parts and of the separator, and of two texts together if it holds of both,
    holds of the joined text. -/
theorem joinWith_induction {P : List Char → Prop} (hnil : P [])
    (happend : ∀ s t, P s → P t → P (s ++ t)) {separator : List Char} (hsep : P separator)
    {parts : List (List Char)} (h : ∀ part ∈ parts, P part) : P (joinWith separator parts) := by
  induction parts with
  | nil => exact hnil
  | cons part parts ih =>
    have hpart := h part List.mem_cons_self
    cases parts with
    | nil => exact hpart
    | cons next parts =>
      rw [joinWith_cons_cons]
      have hrest := ih fun p hp => h p (List.mem_cons_of_mem _ hp)
      exact happend _ _ hpart (happend _ _ hsep hrest)

theorem mem_joinWith {separator part : List Char} {parts : List (List Char)} {c : Char}
    (hpart : part ∈ parts) (hc : c ∈ part) : c ∈ joinWith separator parts := by
  induction parts with
  | nil => exact absurd hpart List.not_mem_nil
  | cons first parts ih =>
    cases parts with
    | nil =>
      rw [List.mem_singleton.1 hpart] at hc
      exact hc
    | cons next parts =>
      rw [joinWith_cons_cons]
      rcases List.mem_cons.1 hpart with rfl | hpart
      · exact List.mem_append_left _ hc
      · exact List.mem_append_right _ (List.mem_append_right _ (ih hpart))

/-- A piece in front of the first part stands in front of the joined text. -/
theorem joinWith_append_cons (separator piece part : List Char) (parts : List (List Char)) :
    joinWith separator ((piece ++ part) :: parts) = piece ++ joinWith separator (part :: parts) := by
  cases parts with
  | nil => rfl
  | cons next parts =>
    rw [joinWith_cons_cons, joinWith_cons_cons, List.append_assoc]

theorem joinWith_nil (parts : List (List Char)) : joinWith [] parts = parts.flatten := by
  induction parts with
  | nil => rfl
  | cons part parts ih =>
    cases parts with
    | nil => simp [joinWith]
    | cons next parts =>
      rw [joinWith_cons_cons, ih, List.nil_append, ← List.flatten_cons]

/-- Characters are left out of the parts and of the separator alike. -/
theorem filter_joinWith (p : Char → Bool) (separator : List Char) (parts : List (List Char)) :
    (joinWith separator parts).filter p =
      joinWith (separator.filter p) (parts.map fun part => part.filter p) := by
  induction parts with
  | nil => rfl
  | cons part parts ih =>
    cases parts with
    | nil => rfl
    | cons next parts =>
      rw [joinWith_cons_cons, List.filter_append, List.filter_append, ih]
      exact (joinWith_cons_cons _ _ _ _).symm

/-! ## Splitting -/

/-- A part that a separator behind it ends at once: the separator neither occurs in it nor begins
    in it. -/
structure EndsAt (separator part : List Char) : Prop where
  not_infix : ¬ separator <:+: part
  cut : ∀ rest, IsFirstCut separator (part ++ (separator ++ rest)) part rest

theorem endsAt_singleton {c : Char} {part : List Char} (h : c ∉ part) : EndsAt [c] part where
  not_infix hpart := h (hpart.subset List.mem_cons_self)
  cut rest := by
    refine ⟨rfl, fun b r hsplit => ?_⟩
    -- an earlier occurrence would lie in the text in front
    refine Nat.le_of_not_lt fun hlt => ?_
    have hb : b ++ [c] <+: part ++ ([c] ++ rest) := ⟨r, by rw [hsplit, List.append_assoc]⟩
    have hshorter : b ++ [c] <+: part :=
      List.prefix_of_prefix_length_le hb (List.prefix_append part _)
        (by rw [List.length_append, List.length_singleton]; omega)
    exact h (hshorter.subset (by simp))

/-- An occurrence of two different characters that begins before their own does not overlap with
    it, so it lies in the text in front. -/
theorem endsAt_pair {c d : Char} (hne : c ≠ d) {part : List Char} (h : ¬ [c, d] <:+: part) :
    EndsAt [c, d] part where
  not_infix := h
  cut rest := by
    refine ⟨rfl, fun b r hsplit => ?_⟩
    refine Nat.le_of_not_lt fun hlt => ?_
    obtain ⟨u, hpart, hrest⟩ | ⟨u, hb, hrest⟩ := List.append_eq_append_iff.1 hsplit
    · rw [hpart, List.length_append] at hlt
      omega
    · obtain _ | ⟨x, _ | ⟨y, u⟩⟩ := u
      · rw [hb, List.append_nil] at hlt
        exact Nat.lt_irrefl _ hlt
      · -- the occurrence would end in the first character of the other
        simp only [List.cons_append, List.nil_append, List.cons.injEq] at hrest
        exact hne hrest.2.1.symm
      · simp only [List.cons_append, List.nil_append, List.cons.injEq] at hrest
        obtain ⟨rfl, rfl, -⟩ := hrest
        exact h ⟨b, u, by simp [hb]⟩

theorem splitOn_of_not_infix {separator s : List Char} (hne : separator ≠ [])
    (h : ¬ separator <:+: s) : splitOn separator s = [s] := by
  rw [splitOn, if_neg hne]
  split
  · rfl
  · next before rest hcut =>
    have hs := eq_of_cut? hcut
    exact absurd ⟨before, rest, hs.symm⟩ h

theorem splitOn_of_isFirstCut {separator s before rest : List Char} (hne : separator ≠ [])
    (h : IsFirstCut separator s before rest) :
    splitOn separator s = before :: splitOn separator rest := by
  have hcut := cut?_eq_some_iff.2 h
  rw [splitOn, if_neg hne]
  split
  · next hnone => rw [hcut] at hnone; cases hnone
  · next hsome =>
    rw [hcut] at hsome
    cases hsome
    rfl

/-- Parts that the separator ends are split where they were joined. -/
theorem splitOn_joinWith_of_endsAt {separator : List Char} (hsep : separator ≠ [])
    {parts : List (List Char)} (hne : parts ≠ []) (h : ∀ part ∈ parts, EndsAt separator part) :
    splitOn separator (joinWith separator parts) = parts := by
  induction parts with
  | nil => exact absurd rfl hne
  | cons part parts ih =>
    have hpart := h part List.mem_cons_self
    cases parts with
    | nil => exact splitOn_of_not_infix hsep hpart.not_infix
    | cons next parts =>
      have hrest := ih (by simp) fun p hp => h p (List.mem_cons_of_mem _ hp)
      rw [joinWith_cons_cons, splitOn_of_isFirstCut hsep (hpart.cut _), hrest]

/-- Parts without the separator are split where they were joined. -/
theorem splitOn_joinWith {c : Char} {parts : List (List Char)} (hne : parts ≠ [])
    (h : ∀ part ∈ parts, c ∉ part) : splitOn [c] (joinWith [c] parts) = parts :=
  splitOn_joinWith_of_endsAt (by simp) hne fun part hpart => endsAt_singleton (h part hpart)

theorem splitOn_two {c : Char} {s t : List Char} (hs : c ∉ s) (ht : c ∉ t) :
    splitOn [c] (s ++ c :: t) = [s, t] := by
  have hparts : ∀ part ∈ [s, t], c ∉ part := by simpa using ⟨hs, ht⟩
  simpa [joinWith] using splitOn_joinWith (List.cons_ne_nil s [t]) hparts

/-- No part of a text holds the separator. -/
theorem not_infix_of_mem_splitOn {separator s part : List Char} (hne : separator ≠ [])
    (h : part ∈ splitOn separator s) : ¬ separator <:+: part := by
  fun_induction splitOn separator s with
  | case1 s hnil => exact absurd hnil hne
  | case2 s _ hcut =>
    rw [List.mem_singleton.1 h]
    rintro ⟨b, r, hs⟩
    have hsplit : s = b ++ (separator ++ r) := by rw [← hs, List.append_assoc]
    have hsome := cut?_isSome_of_split b r hsplit
    rw [hcut] at hsome
    cases hsome
  | case3 s _ before rest hcut ih =>
    obtain rfl | h := List.mem_cons.1 h
    · exact IsFirstCut.not_infix (cut?_eq_some_iff.1 hcut) hne
    · exact ih h

theorem mem_of_mem_splitOn {separator s part : List Char} {c : Char}
    (h : part ∈ splitOn separator s) (hc : c ∈ part) : c ∈ s := by
  fun_induction splitOn separator s with
  | case1 s hnil => exact List.mem_singleton.1 h ▸ hc
  | case2 s _ hcut => exact List.mem_singleton.1 h ▸ hc
  | case3 s _ before rest hcut ih =>
    rw [eq_of_cut? hcut]
    obtain rfl | h := List.mem_cons.1 h
    · simp [hc]
    · simp [ih h]

theorem joinWith_eq_intercalate (separator : List Char) (parts : List (List Char)) :
    joinWith separator parts = separator.intercalate parts := by
  induction parts with
  | nil => rfl
  | cons part parts ih =>
    cases parts with
    | nil => simp [joinWith, List.intercalate]
    | cons next parts =>
      rw [joinWith_cons_cons, ih]
      simp [List.intercalate]

end RecordTemplate.Text
