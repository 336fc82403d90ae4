/-
  RecordTemplate.Proofs.Template.Grammar

  The grammar of tags and fallbacks, given by rules that say nothing about how a text is read,
  and the proof that the readers accept exactly this grammar.  Since no keyword holds a colon and
  no path holds white space, a bar or a percent sign, a text begins with one tag at most
  (`TagParts.unique`), so it does not matter in which order keywords and characters are tried.
-/

import RecordTemplate.Proofs.Template.Reread
import RecordTemplate.Proofs.Text.Search

namespace RecordTemplate.Template

open RecordTemplate.Text

/-! ## The grammar -/

/-- A word that can name a source, or a segment of a path. -/
structure IsPlainWord (word : String) : Prop where
  ne_empty : word ≠ ""
  chars : ∀ c ∈ word.toList, isWord c = true ∨ c = '-'

instance (word : String) : Decidable (IsPlainWord word) :=
  decidable_of_iff (word ≠ "" ∧ ∀ c ∈ word.toList, isWord c = true ∨ c = '-')
    ⟨fun h => ⟨h.1, h.2⟩, fun h => ⟨h.ne_empty, h.chars⟩⟩

/-- Items put together: characters that are neither quotes nor percent signs, and strings in
    quotes of one kind. -/
inductive ChainText : List Char → Prop where
  | nil : ChainText []
  | char {c : Char} {s : List Char} (hquote : isQuote c = false) (hpercent : c ≠ '%')
      (hs : ChainText s) : ChainText (c :: s)
  | quoted {q : Char} {inner s : List Char} (hq : isQuote q = true) (hinner : q ∉ inner)
      (hs : ChainText s) : ChainText (q :: (inner ++ q :: s))

/-- What may stand between the path of a tag and its closing percent sign. -/
inductive TagTail : List Char → Prop where
  | none : TagTail []
  | chain {blank c : List Char} (hblank : ∀ x ∈ blank, isSpace x = true) (hne : c ≠ [])
      (hc : ChainText c) : TagTail (blank ++ '|' :: c)

/-- The text of a tag with these parts. -/
def tagText (keyword path tail : List Char) : List Char :=
  '%' :: (keyword ++ ':' :: (path ++ (tail ++ ['%'])))

/-- Whether a tag can have these parts. -/
structure TagParts (names : List String) (keyword path tail : List Char) : Prop where
  keyword_mem : ∃ name ∈ names, name.toList = keyword
  path_ne : path ≠ []
  path_chars : ∀ c ∈ path, isPathChar c = true
  isTail : TagTail tail

/-- Whether a text is a tag. -/
def IsTag (names : List String) (s : List Char) : Prop :=
  ∃ keyword path tail, TagParts names keyword path tail ∧ s = tagText keyword path tail

/-! ## Character classes -/

theorem isPathChar_spaceCodes : ∀ n ∈ spaceCodes, isPathChar (Char.ofNat n) = false := by
  decide +kernel

theorem isPathChar_of_isSpace {c : Char} (h : isSpace c = true) : isPathChar c = false := by
  have hmem : c.toNat ∈ spaceCodes := List.contains_iff_mem.1 h
  have hcode := isPathChar_spaceCodes c.toNat hmem
  rwa [Char.ofNat_toNat] at hcode

theorem isQuote_of_isSpace {c : Char} (h : isSpace c = true) : isQuote c = false := by
  cases hq : isQuote c with
  | false => rfl
  | true =>
    have hor : c = '"' ∨ c = '\'' := by simpa [isQuote] using hq
    rcases hor with rfl | rfl
    · exact absurd h (by decide)
    · exact absurd h (by decide)

theorem IsPlainWord.toList_ne {word : String} (h : IsPlainWord word) : word.toList ≠ [] := by
  intro hnil
  exact h.ne_empty (String.toList_eq_nil_iff.1 hnil)

theorem IsPlainWord.not_mem {word : String} (h : IsPlainWord word) {c : Char}
    (hword : isWord c = false) (hhyphen : c ≠ '-') : c ∉ word.toList := by
  intro hmem
  rcases h.chars c hmem with htrue | heq
  · rw [hword] at htrue
    cases htrue
  · exact hhyphen heq

/-! ## Chains -/

/-- A quoted text is passed over up to the quote that closes it. -/
theorem toPercent?_quoted {q : Char} {inner s : List Char} (hinner : q ∉ inner) :
    toPercent? (some q) (inner ++ q :: s) =
      (toPercent? none s).map fun r => (inner ++ q :: r.1, r.2) := by
  induction inner with
  | nil => simp [toPercent?]
  | cons c inner ih =>
    obtain ⟨hne, hmem⟩ := List.ne_and_not_mem_of_not_mem_cons hinner
    simp only [List.cons_append, toPercent?, if_neg (Ne.symm hne), ih hmem, Option.map_map]
    rfl

/-- A chain is read up to the percent sign after it. -/
theorem ChainText.toPercent? {c : List Char} (hc : ChainText c) (rest : List Char) :
    toPercent? none (c ++ '%' :: rest) = some (c, rest) := by
  induction hc with
  | nil => rfl
  | char hquote hpercent _ ih =>
    simp [Template.toPercent?, hquote, hpercent, ih]
  | @quoted q inner s hq hinner _ ih =>
    have hpercent : q ≠ '%' := by
      intro h
      rw [h] at hq
      exact absurd hq (by decide)
    have hread := toPercent?_quoted (s := s ++ '%' :: rest) hinner
    simp only [List.cons_append, List.append_assoc, Template.toPercent?, hq, hpercent, if_true,
      if_false, hread, ih, Option.map_some]

/-- What is read up to a percent sign: a chain, or the rest of a quoted text and a chain. -/
def ReadFrom : Option Char → List Char → Prop
  | none, body => ChainText body
  | some q, body => ∃ inner c, body = inner ++ q :: c ∧ q ∉ inner ∧ ChainText c

theorem readFrom_of_toPercent? {quote : Option Char} {s body rest : List Char}
    (h : toPercent? quote s = some (body, rest)) (hquote : ∀ q, quote = some q → isQuote q = true) :
    ReadFrom quote body := by
  -- the open quote changes from character to character
  induction s generalizing quote body with
  | nil => cases quote <;> simp [toPercent?] at h
  | cons c s ih =>
    cases quote with
    | some q =>
      obtain ⟨⟨b, r⟩, hb, he⟩ := Option.map_eq_some_iff.1 h
      cases he
      by_cases hcq : c = q
      · rw [if_pos hcq] at hb
        have hchain : ChainText b := ih hb (by simp)
        exact ⟨[], b, by rw [hcq, List.nil_append], by simp, hchain⟩
      · rw [if_neg hcq] at hb
        obtain ⟨inner, t, rfl, hinner, ht⟩ := ih hb hquote
        refine ⟨c :: inner, t, rfl, ?_, ht⟩
        intro hmem
        rcases List.mem_cons.1 hmem with heq | hmem
        · exact hcq heq.symm
        · exact hinner hmem
    | none =>
      simp only [toPercent?] at h
      split at h
      · cases h
        exact ChainText.nil
      · next hpercent =>
        obtain ⟨⟨b, r⟩, hb, he⟩ := Option.map_eq_some_iff.1 h
        cases he
        cases hq : isQuote c with
        | false =>
          rw [hq] at hb
          exact ChainText.char hq hpercent (ih hb (by simp))
        | true =>
          rw [hq] at hb
          have hread : ReadFrom (some c) b := ih hb (by simpa using hq)
          obtain ⟨inner, t, rfl, hinner, ht⟩ := hread
          exact ChainText.quoted hq hinner ht

theorem chainText_of_toPercent? {s body rest : List Char}
    (h : toPercent? none s = some (body, rest)) : ChainText body :=
  readFrom_of_toPercent? h (by simp)

theorem ChainText.append {s t : List Char} (hs : ChainText s) (ht : ChainText t) :
    ChainText (s ++ t) := by
  induction hs with
  | nil => exact ht
  | char hquote hpercent _ ih => exact ChainText.char hquote hpercent ih
  | quoted hq hinner _ ih =>
    simp only [List.cons_append, List.append_assoc]
    exact ChainText.quoted hq hinner ih

/-- A text without quotes and percent signs is a chain. -/
theorem chainText_of_forall {s : List Char}
    (h : ∀ c ∈ s, isQuote c = false ∧ c ≠ '%') : ChainText s := by
  induction s with
  | nil => exact ChainText.nil
  | cons c s ih =>
    obtain ⟨hquote, hpercent⟩ := h c List.mem_cons_self
    exact ChainText.char hquote hpercent (ih fun d hd => h d (List.mem_cons_of_mem _ hd))

theorem chainText_of_isSpace {blank : List Char} (h : ∀ c ∈ blank, isSpace c = true) :
    ChainText blank := by
  refine chainText_of_forall fun c hc => ⟨isQuote_of_isSpace (h c hc), ?_⟩
  rintro rfl
  exact absurd (h '%' hc) (by decide)

/-- What follows the white space in front of a chain is a chain. -/
theorem ChainText.dropWhile {c : List Char} (hc : ChainText c) :
    ChainText (c.dropWhile isSpace) := by
  induction hc with
  | nil => exact ChainText.nil
  | @char c s hquote hpercent hs ih =>
    cases hspace : isSpace c with
    | true => rw [List.dropWhile_cons_of_pos hspace]; exact ih
    | false =>
      rw [List.dropWhile_cons_of_neg (by simp [hspace])]
      exact ChainText.char hquote hpercent hs
  | @quoted q inner s hq hinner hs ih =>
    have hspace : isSpace q = false := by
      cases hspace : isSpace q with
      | false => rfl
      | true => rw [isQuote_of_isSpace hspace] at hq; cases hq
    rw [List.dropWhile_cons_of_neg (by simp [hspace])]
    exact ChainText.quoted hq hinner hs

/-- The part of a chain that is kept: white space in front is left out, except that something
    is kept of every chain. -/
def keptChain (c : List Char) : List Char :=
  match c.dropWhile isSpace with
  | [] => c.getLast?.toList
  | d :: rest => d :: rest

/-- A chain after a bar is read up to the percent sign after it. -/
theorem ChainText.chain? {c : List Char} (hc : ChainText c) (hne : c ≠ []) (rest : List Char) :
    chain? (c ++ '%' :: rest) = some ⟨keptChain c, c ++ ['%'], rest⟩ := by
  have hsplit : c.takeWhile isSpace ++ c.dropWhile isSpace = c := List.takeWhile_append_dropWhile
  have hall : ∀ x ∈ c.takeWhile isSpace, isSpace x = true :=
    List.all_eq_true.1 List.all_takeWhile
  -- the percent sign or what comes before it ends the white space
  have hstop : ∀ x, (c.dropWhile isSpace ++ '%' :: rest).head? = some x → isSpace x = false := by
    intro x hx
    have hnot := List.head?_dropWhile_not isSpace c
    cases hd : c.dropWhile isSpace with
    | nil =>
      rw [hd] at hx
      cases hx
      decide
    | cons d ds =>
      rw [hd] at hx hnot
      cases hx
      simpa using hnot
  have htext : c ++ '%' :: rest =
      c.takeWhile isSpace ++ (c.dropWhile isSpace ++ '%' :: rest) := by
    rw [← List.append_assoc, hsplit]
  have htake := takeWhile_span hall hstop
  have hdrop := dropWhile_span hall hstop
  have hread := hc.dropWhile.toPercent? rest
  rw [htext]
  simp only [Template.chain?, htake, hdrop, hread]
  cases hd : c.dropWhile isSpace with
  | nil =>
    have hblank : c.takeWhile isSpace = c := by rw [hd, List.append_nil] at hsplit; exact hsplit
    obtain ⟨x, hx⟩ : ∃ x, c.getLast? = some x :=
      ⟨c.getLast hne, List.getLast?_eq_some_getLast hne⟩
    simp only [hblank, hx, keptChain, hd, Option.map_some, Option.toList_some]
  | cons d ds =>
    have hkept : keptChain c = d :: ds := by simp only [keptChain, hd]
    have htake' : c.takeWhile isSpace ++ d :: ds = c := by rw [← hd]; exact hsplit
    simp only [hkept, htake']

/-- Only chains are read after a bar. -/
theorem chainText_of_chain? {s : List Char} {r : Reading (List Char)} (h : chain? s = some r) :
    ∃ c, ChainText c ∧ c ≠ [] ∧ r.text = c ++ ['%'] := by
  have hblank : ChainText (s.takeWhile isSpace) :=
    chainText_of_isSpace (List.all_eq_true.1 List.all_takeWhile)
  unfold Template.chain? at h
  dsimp only at h
  split at h
  · cases h
  · next c body rest hread =>
    cases h
    refine ⟨s.takeWhile isSpace ++ c :: body, ?_, by simp, rfl⟩
    exact hblank.append (chainText_of_toPercent? hread)
  · obtain ⟨c, hc, rfl⟩ := Option.map_eq_some_iff.1 h
    refine ⟨s.takeWhile isSpace, hblank, ?_, rfl⟩
    intro hnil
    rw [hnil] at hc
    cases hc

/-! ## Tails -/

theorem afterPath?_bar {blank c : List Char} (hblank : ∀ x ∈ blank, isSpace x = true)
    (hc : ChainText c) (hne : c ≠ []) (rest : List Char) :
    afterPath? (blank ++ '|' :: (c ++ '%' :: rest)) =
      some ⟨keptChain c, blank ++ '|' :: (c ++ ['%']), rest⟩ := by
  have hstop : ∀ x, ('|' :: (c ++ '%' :: rest)).head? = some x → isSpace x = false := by
    intro x hx
    cases hx
    decide
  have htake := takeWhile_span hblank hstop
  have hdrop := dropWhile_span hblank hstop
  cases blank with
  | nil =>
    simp only [List.nil_append] at htake hdrop ⊢
    simp only [afterPath?, htake, hdrop, hc.chain? hne rest]
    simp
  | cons b blank =>
    have hb : b ≠ '%' := by
      rintro rfl
      exact absurd (hblank '%' List.mem_cons_self) (by decide)
    simp only [List.cons_append] at htake hdrop ⊢
    simp only [afterPath?, hb, if_false, htake, hdrop, if_true, hc.chain? hne rest,
      Option.map_some]
    simp

/-- The chain that is kept of the tail of a tag. -/
def tailChain (tail : List Char) : List Char :=
  match tail.dropWhile isSpace with
  | [] => []
  | _ :: c => keptChain c

theorem tailChain_bar {blank : List Char} (hblank : ∀ x ∈ blank, isSpace x = true)
    (c : List Char) : tailChain (blank ++ '|' :: c) = keptChain c := by
  have hstop : ∀ x, ('|' :: c).head? = some x → isSpace x = false := by
    intro x hx
    cases hx
    decide
  rw [tailChain, dropWhile_span hblank hstop]

/-- A tail is read up to the percent sign after it. -/
theorem TagTail.afterPath? {tail : List Char} (h : TagTail tail) (rest : List Char) :
    afterPath? (tail ++ '%' :: rest) = some ⟨tailChain tail, tail ++ ['%'], rest⟩ := by
  cases h with
  | none => rfl
  | @chain blank c hblank hne hc =>
    have hread := afterPath?_bar hblank hc hne rest
    rw [tailChain_bar hblank]
    simpa only [List.append_assoc, List.cons_append] using hread

theorem tagTail_of_afterPath? {s : List Char} {r : Reading (List Char)}
    (h : afterPath? s = some r) : ∃ tail, TagTail tail ∧ r.text = tail ++ ['%'] := by
  unfold Template.afterPath? at h
  split at h
  · cases h
  · next c t =>
    split at h
    · next hc =>
      cases h
      exact ⟨[], TagTail.none, by rw [hc, List.nil_append]⟩
    · dsimp only at h
      split at h
      · cases h
      · next d u hd =>
        split at h
        · next hbar =>
          obtain ⟨r', hr, rfl⟩ := Option.map_eq_some_iff.1 h
          have hblank : ∀ x ∈ (c :: t).takeWhile isSpace, isSpace x = true :=
            List.all_eq_true.1 List.all_takeWhile
          obtain ⟨body, hbody, hne, htext⟩ := chainText_of_chain? hr
          refine ⟨_, TagTail.chain hblank hne hbody, ?_⟩
          simp only [hbar, htext, List.append_assoc, List.cons_append]
        · cases h

/-! ## Tags read with one keyword -/

theorem TagTail.head? {tail : List Char} (h : TagTail tail) (rest : List Char) :
    ∀ x, (tail ++ '%' :: rest).head? = some x → isPathChar x = false := by
  intro x hx
  cases h with
  | none =>
    cases hx
    decide
  | @chain blank c hblank _ _ =>
    cases blank with
    | nil =>
      cases hx
      decide
    | cons b blank =>
      cases hx
      exact isPathChar_of_isSpace (hblank _ List.mem_cons_self)

/-- A tag with these parts is read with its keyword, whatever follows. -/
theorem withKeyword?_of_parts {keyword path tail : List Char} (hne : path ≠ [])
    (hpath : ∀ c ∈ path, isPathChar c = true) (htail : TagTail tail) (rest : List Char) :
    withKeyword? keyword (keyword ++ ':' :: (path ++ (tail ++ '%' :: rest))) =
      some ⟨⟨keyword, path, tailChain tail⟩, tagText keyword path tail, rest⟩ := by
  have hafter : after? (keyword ++ [':']) (keyword ++ ':' :: (path ++ (tail ++ '%' :: rest))) =
      some (path ++ (tail ++ '%' :: rest)) := after?_eq_some_iff.2 (by simp)
  have htake := takeWhile_span hpath (htail.head? rest)
  have hdrop := dropWhile_span hpath (htail.head? rest)
  simp only [withKeyword?, hafter, htake, hne, if_false, hdrop, htail.afterPath? rest,
    Option.map_some, tagText, List.append_assoc, List.cons_append, List.nil_append]

/-- Only tags are read with a keyword. -/
theorem parts_of_withKeyword? {keyword s : List Char} {r : Reading TagForm}
    (h : withKeyword? keyword s = some r) :
    ∃ tail, r.item.source = keyword ∧ r.item.path ≠ [] ∧
      (∀ c ∈ r.item.path, isPathChar c = true) ∧ TagTail tail ∧
      r.text = tagText keyword r.item.path tail := by
  unfold withKeyword? at h
  split at h
  · cases h
  · next t ht =>
    dsimp only at h
    split at h
    · cases h
    · next hne =>
      obtain ⟨r', hr, rfl⟩ := Option.map_eq_some_iff.1 h
      obtain ⟨tail, htail, htext⟩ := tagTail_of_afterPath? hr
      refine ⟨tail, rfl, hne, List.all_eq_true.1 List.all_takeWhile, htail, ?_⟩
      simp only [tagText, htext, List.append_assoc, List.cons_append, List.nil_append]

/-! ## One tag at most -/

/-- A text begins with one tag at most, and the tag has these parts only. -/
theorem TagParts.unique {names : List String} (hnames : ∀ name ∈ names, IsPlainWord name)
    {k path tail k' path' tail' rest rest' : List Char} (h : TagParts names k path tail)
    (h' : TagParts names k' path' tail')
    (htext : tagText k path tail ++ rest = tagText k' path' tail' ++ rest') :
    k = k' ∧ path = path' ∧ tail = tail' ∧ rest = rest' := by
  have hcolon {w : List Char} (hw : ∃ name ∈ names, name.toList = w) : ':' ∉ w := by
    obtain ⟨name, hmem, rfl⟩ := hw
    exact (hnames name hmem).not_mem (by decide) (by decide)
  have hopen : k ++ ':' :: (path ++ (tail ++ '%' :: rest)) =
      k' ++ ':' :: (path' ++ (tail' ++ '%' :: rest')) := by
    simpa [tagText] using htext
  obtain rfl : k = k' :=
    (eq_of_append_cons (hcolon h.keyword_mem) (hcolon h'.keyword_mem) hopen).1
  -- the reader finds both tags at the same place
  have hread := @withKeyword?_of_parts k _ _ h.path_ne h.path_chars h.isTail rest
  have hread' := @withKeyword?_of_parts k _ _ h'.path_ne h'.path_chars h'.isTail rest'
  rw [hopen, hread'] at hread
  obtain ⟨⟨rfl, -⟩, hsame, rfl⟩ : (path' = path ∧ tailChain tail' = tailChain tail) ∧
      tagText k path' tail' = tagText k path tail ∧ rest' = rest := by
    simpa using hread
  have htail : tail' = tail := by simpa [tagText] using hsame
  exact ⟨rfl, rfl, htail.symm, rfl⟩

end RecordTemplate.Template
