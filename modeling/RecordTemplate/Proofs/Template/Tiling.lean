/-
  RecordTemplate.Proofs.Template.Tiling

  The tokens of a template tile it: they follow each other without a gap, and their values are
  the pieces of the template at their places (`tokens_tile`).  What is told of the tokens comes
  from one description of how they are found, `TokensOf`: a text token is a run of places where
  no construct begins, and every other token is the construct that begins at its place.
-/

import Mathlib.Data.List.Chain
import RecordTemplate.Proofs.Scan
import RecordTemplate.Template.Token

namespace RecordTemplate.Template

variable {α : Type}

/-! ## Where a scan finds something -/

/-- A scan finds nothing and nothing begins anywhere in the text, or it finds the construct that
    begins at the first place where one does. -/
theorem Recogniser.scan_cases (rule : Recogniser α) (s : List Char) :
    (rule.scan s = ⟨[], s⟩ ∧ ∀ i < s.length, rule.run (s.drop i) = none) ∨
      ∃ lead t r, s = lead ++ t ∧ (∀ i < lead.length, rule.run (s.drop i) = none) ∧
        rule.run t = some r ∧
        rule.scan s = ((rule.scan r.rest).cons r.item r.text).prepend lead := by
  induction s with
  | nil =>
    refine Or.inl ⟨scan_nil, ?_⟩
    intro i hi
    exact absurd hi (Nat.not_lt_zero i)
  | cons c s ih =>
    cases hrun : rule.run (c :: s) with
    | some r =>
      refine Or.inr ⟨[], c :: s, r, rfl, ?_, hrun, ?_⟩
      · intro i hi
        exact absurd hi (Nat.not_lt_zero i)
      · rw [scan_of_run hrun, Scan.prepend_nil]
    | none =>
      -- the places of the longer text are the first one and those of the rest
      have hplaces {n : Nat} (h : ∀ i < n, rule.run (s.drop i) = none) :
          ∀ i < n + 1, rule.run ((c :: s).drop i) = none := by
        intro i hi
        cases i with
        | zero => exact hrun
        | succ i =>
          rw [List.drop_succ_cons]
          exact h i (by omega)
      rcases ih with ⟨hscan, hnone⟩ | ⟨lead, t, r, hs, hnone, hr, hscan⟩
      · refine Or.inl ⟨?_, hplaces hnone⟩
        rw [scan_of_none hrun, hscan]
        rfl
      · refine Or.inr ⟨c :: lead, t, r, by rw [hs, List.cons_append], hplaces hnone, hr, ?_⟩
        rw [scan_of_none hrun, hscan, Scan.consChar_prepend]

/-! ## The tokens of a text -/

/-- The tokens of a text that begins at a place of a template. -/
inductive TokensOf (rule : Recogniser α) (kind : α → TokenKind) :
    Nat → List Char → List Token → Prop where
  | nothing {p : Nat} : TokensOf rule kind p [] []
  | text {p : Nat} {s : List Char} (hne : s ≠ [])
      (hnone : ∀ i < s.length, rule.run (s.drop i) = none) :
      TokensOf rule kind p s [⟨.text, s, p⟩]
  | construct {p : Nat} {s : List Char} {r : Reading α} {ts : List Token}
      (hrun : rule.run s = some r) (hts : TokensOf rule kind (p + r.text.length) r.rest ts) :
      TokensOf rule kind p s (⟨kind r.item, r.text, p⟩ :: ts)
  | both {p : Nat} {lead s : List Char} {r : Reading α} {ts : List Token} (hne : lead ≠ [])
      (hnone : ∀ i < lead.length, rule.run ((lead ++ s).drop i) = none)
      (hrun : rule.run s = some r)
      (hts : TokensOf rule kind (p + lead.length + r.text.length) r.rest ts) :
      TokensOf rule kind p (lead ++ s)
        (⟨.text, lead, p⟩ :: ⟨kind r.item, r.text, p + lead.length⟩ :: ts)

namespace Token

@[simp] theorem ofText_nil (withText : Bool) (p : Nat) : ofText withText [] p = [] := by
  cases withText <;> rfl

@[simp] theorem ofText_false (s : List Char) (p : Nat) : ofText false s p = [] := rfl

theorem ofText_of_ne {s : List Char} (hne : s ≠ []) (p : Nat) :
    ofText true s p = [⟨.text, s, p⟩] := by
  have hempty : s.isEmpty = false := by simpa using hne
  simp [ofText, hempty]

theorem isText_construct {kind : α → TokenKind} (hkind : ∀ a, kind a ≠ .text) (a : α)
    (value : List Char) (p : Nat) : isText ⟨kind a, value, p⟩ = false := by
  have := hkind a
  simpa [isText] using this

/-- A scan that begins with a construct gives its token first. -/
theorem ofScan_prepend (kind : α → TokenKind) (item : α) (text lead : List Char) (s : Scan α)
    (p : Nat) :
    ofScan kind true ((s.cons item text).prepend lead).tail p
        ((s.cons item text).prepend lead).found =
      ofText true lead p ++ ⟨kind item, text, p + lead.length⟩ ::
        ofScan kind true s.tail (p + lead.length + text.length) s.found := by
  simp [Scan.prepend, Scan.cons, ofScan]

end Token

/-- The tokens of a scan are the tokens of its text. -/
theorem tokensOf_ofScan (rule : Recogniser α) (kind : α → TokenKind) (p : Nat) (s : List Char) :
    TokensOf rule kind p s (Token.ofScan kind true (rule.scan s).tail p (rule.scan s).found) := by
  -- the text that is left after a construct is shorter
  induction hn : s.length using Nat.strong_induction_on generalizing p s with
  | _ n ih =>
    rcases rule.scan_cases s with ⟨hscan, hnone⟩ | ⟨lead, t, r, rfl, hnone, hrun, hscan⟩
    · rw [hscan, Token.ofScan]
      by_cases hne : s = []
      · rw [hne, Token.ofText_nil]
        exact TokensOf.nothing
      · rw [Token.ofText_of_ne hne]
        exact TokensOf.text hne hnone
    · have hshorter : r.rest.length < n := by
        have hlt := rule.shorter hrun
        rw [List.length_append] at hn
        omega
      have hrest := ih r.rest.length hshorter (p + lead.length + r.text.length) r.rest rfl
      rw [hscan, Token.ofScan_prepend]
      by_cases hne : lead = []
      · subst hne
        rw [Token.ofText_nil, List.nil_append, List.nil_append]
        exact TokensOf.construct hrun hrest
      · rw [Token.ofText_of_ne hne, List.cons_append, List.nil_append]
        exact TokensOf.both hne hnone hrun hrest

/-! ## Tilings -/

/-- Whether tokens cover the places from `start` to `stop` one after the other. -/
def Covers : Nat → Nat → List Token → Prop
  | start, stop, [] => start = stop
  | start, stop, t :: ts => t.position = start ∧ Covers t.stop stop ts

namespace TokensOf

variable {rule : Recogniser α} {kind : α → TokenKind} {p : Nat} {s : List Char} {ts : List Token}

theorem covers (h : TokensOf rule kind p s ts) : Covers p (p + s.length) ts := by
  induction h with
  | nothing => rfl
  | text hne hnone => exact ⟨rfl, rfl⟩
  | @construct p s r ts hrun _ ih =>
    obtain ⟨-, hs⟩ := rule.splits hrun
    have hlength : p + s.length = p + r.text.length + r.rest.length := by
      have := congrArg List.length hs
      rw [List.length_append] at this
      omega
    rw [hlength]
    exact ⟨rfl, ih⟩
  | @both p lead s r ts hne hnone hrun _ ih =>
    obtain ⟨-, hs⟩ := rule.splits hrun
    have hlength : p + (lead ++ s).length =
        p + lead.length + r.text.length + r.rest.length := by
      have := congrArg List.length hs
      rw [List.length_append] at this ⊢
      omega
    rw [hlength]
    exact ⟨rfl, rfl, ih⟩

theorem flatMap_value (h : TokensOf rule kind p s ts) : ts.flatMap Token.value = s := by
  induction h with
  | nothing => rfl
  | text hne hnone => simp
  | construct hrun _ ih =>
    obtain ⟨-, hs⟩ := rule.splits hrun
    rw [List.flatMap_cons, ih, ← hs]
  | both hne hnone hrun _ ih =>
    obtain ⟨-, hs⟩ := rule.splits hrun
    rw [List.flatMap_cons, List.flatMap_cons, ih, ← hs]

/-- After a text token comes none or the token of a construct. -/
theorem isChain (hkind : ∀ a, kind a ≠ .text) (h : TokensOf rule kind p s ts) :
    ts.IsChain fun t u => ¬ (t.isText = true ∧ u.isText = true) := by
  induction h with
  | nothing => exact List.IsChain.nil
  | text hne hnone => exact List.IsChain.singleton _
  | construct hrun _ ih =>
    refine List.isChain_cons.2 ⟨?_, ih⟩
    rintro t - ⟨htext, -⟩
    rw [Token.isText_construct hkind] at htext
    cases htext
  | both hne hnone hrun _ ih =>
    refine List.isChain_cons_cons.2 ⟨?_, List.isChain_cons.2 ⟨?_, ih⟩⟩
    · rintro ⟨-, htext⟩
      rw [Token.isText_construct hkind] at htext
      cases htext
    · rintro t - ⟨htext, -⟩
      rw [Token.isText_construct hkind] at htext
      cases htext

/-- What a token stands for at its place of a template. -/
structure Stands (rule : Recogniser α) (kind : α → TokenKind) (text : List Char) (t : Token) :
    Prop where
  value_ne : t.value ≠ []
  value_eq : t.value = (text.drop t.position).take t.value.length
  of_text : t.isText = true →
    ∀ i, t.position ≤ i → i < t.stop → rule.run (text.drop i) = none
  of_construct : t.isText = false →
    ∃ r, rule.run (text.drop t.position) = some r ∧ t.kind = kind r.item ∧ t.value = r.text

theorem stands_text {text lead s : List Char} {p : Nat} (hne : lead ≠ [])
    (hplace : text.drop p = lead ++ s)
    (hnone : ∀ i < lead.length, rule.run ((lead ++ s).drop i) = none) :
    Stands rule kind text ⟨.text, lead, p⟩ where
  value_ne := hne
  value_eq := by rw [hplace, List.take_left]
  of_text _ i hle hlt := by
    have hi : i = p + (i - p) := (Nat.add_sub_cancel' hle).symm
    have hlt' : i - p < lead.length := by
      have : i < p + lead.length := hlt
      omega
    rw [hi, ← List.drop_drop, hplace]
    exact hnone (i - p) hlt'
  of_construct h := by cases h

theorem stands_construct {text : List Char} {p : Nat} {r : Reading α} (hkind : ∀ a, kind a ≠ .text)
    (hrun : rule.run (text.drop p) = some r) :
    Stands rule kind text ⟨kind r.item, r.text, p⟩ where
  value_ne := (rule.splits hrun).1
  value_eq := by
    obtain ⟨-, hs⟩ := rule.splits hrun
    rw [hs, List.take_left]
  of_text h := by
    have htext : kind r.item = .text := by simpa [Token.isText] using h
    exact absurd htext (hkind r.item)
  of_construct _ := ⟨r, hrun, rfl, rfl⟩

/-- Every token stands for what begins, or does not begin, at its places. -/
theorem stands (hkind : ∀ a, kind a ≠ .text) {text : List Char} (h : TokensOf rule kind p s ts)
    (hplace : text.drop p = s) : ∀ t ∈ ts, Stands rule kind text t := by
  induction h with
  | nothing =>
    intro t ht
    exact absurd ht List.not_mem_nil
  | @text p s hne hnone =>
    intro t ht
    rw [List.mem_singleton.1 ht]
    have hplace' : text.drop p = s ++ [] := by rw [hplace, List.append_nil]
    exact stands_text hne hplace' (by simpa using hnone)
  | @construct p s r ts hrun _ ih =>
    obtain ⟨-, hs⟩ := rule.splits hrun
    have hrest : text.drop (p + r.text.length) = r.rest := by
      rw [← List.drop_drop, hplace, hs, List.drop_left]
    intro t ht
    rcases List.mem_cons.1 ht with rfl | ht
    · rw [← hplace] at hrun
      exact stands_construct hkind hrun
    · exact ih hrest t ht
  | @both p lead s r ts hne hnone hrun _ ih =>
    obtain ⟨-, hs⟩ := rule.splits hrun
    have hlead : text.drop (p + lead.length) = s := by
      rw [← List.drop_drop, hplace, List.drop_left]
    have hrest : text.drop (p + lead.length + r.text.length) = r.rest := by
      rw [← List.drop_drop, hlead, hs, List.drop_left]
    intro t ht
    rcases List.mem_cons.1 ht with rfl | ht
    · exact stands_text hne hplace hnone
    rcases List.mem_cons.1 ht with rfl | ht
    · rw [← hlead] at hrun
      exact stands_construct hkind hrun
    · exact ih hrest t ht

end TokensOf

/-! ## Tokens without text -/

/-- Leaving text out is the same as dropping the text tokens. -/
theorem Token.ofScan_false (kind : α → TokenKind) (hkind : ∀ a, kind a ≠ .text)
    (tail : List Char) (p : Nat) (found : List (Found α)) :
    ofScan kind false tail p found = (ofScan kind true tail p found).filter fun t => !t.isText := by
  have htext (s : List Char) (p : Nat) : (ofText true s p).filter (fun t => !t.isText) = [] := by
    by_cases hne : s = []
    · rw [hne, ofText_nil, List.filter_nil]
    · rw [ofText_of_ne hne]
      rfl
  induction found generalizing p with
  | nil => rw [ofScan, ofScan, htext, ofText_false]
  | cons f fs ih =>
    simp only [ofScan, ofText_false, List.nil_append, List.filter_append, htext, ih]
    rw [List.filter_cons, isText_construct hkind]
    rfl

/-! ## The tokens of a template -/

theorem TokenKind.ofConstruct_ne_text (c : Construct) : TokenKind.ofConstruct c ≠ .text := by
  cases c with
  | marker m => simp [ofConstruct]
  | fallback f => simp [ofConstruct]
  | tag t => simp [ofConstruct]

/-- Whether a text begins with no marker, no fallback and no tag. -/
def NothingBegins (ks : Keywords) (s : List Char) : Prop :=
  markerRule.run s = none ∧ (fallbackRule ks).run s = none ∧ (tagRule ks).run s = none

/-- Whether a kind and a value are those of the first of marker, fallback and tag that begins a
    text. -/
def FirstBegins (ks : Keywords) (s : List Char) (kind : TokenKind) (value : List Char) : Prop :=
  match markerRule.run s, (fallbackRule ks).run s, (tagRule ks).run s with
  | some m, _, _ => kind = .marker m.item ∧ value = m.text
  | none, some f, _ => kind = .fallback ∧ value = f.text
  | none, none, some t => kind = .tag ∧ value = t.text
  | none, none, none => False

theorem nothingBegins_of_run {ks : Keywords} {s : List Char}
    (h : (constructRule ks).run s = none) : NothingBegins ks s := by
  change Construct.run ks s = none at h
  unfold Construct.run at h
  split at h
  · cases h
  · next hmarker =>
    split at h
    · cases h
    · next hfallback => exact ⟨hmarker, hfallback, Option.map_eq_none_iff.1 h⟩

theorem firstBegins_of_run {ks : Keywords} {s : List Char} {r : Reading Construct}
    (h : (constructRule ks).run s = some r) :
    FirstBegins ks s (TokenKind.ofConstruct r.item) r.text := by
  change Construct.run ks s = some r at h
  unfold Construct.run at h
  unfold FirstBegins
  split at h
  · next m hmarker =>
    cases h
    rw [hmarker]
    exact ⟨rfl, rfl⟩
  · next hmarker =>
    rw [hmarker]
    split at h
    · next f hfallback =>
      cases h
      rw [hfallback]
      exact ⟨rfl, rfl⟩
    · next hfallback =>
      obtain ⟨t, htag, rfl⟩ := Option.map_eq_some_iff.1 h
      rw [hfallback, htag]
      exact ⟨rfl, rfl⟩

/-- What the tokens of a template stand for. -/
theorem tokensOf_tokens (ks : Keywords) (text : List Char) :
    TokensOf (constructRule ks) TokenKind.ofConstruct 0 text (tokens ks text) :=
  tokensOf_ofScan (constructRule ks) TokenKind.ofConstruct 0 text

theorem stands_of_mem_tokens {ks : Keywords} {text : List Char} {t : Token}
    (h : t ∈ tokens ks text) :
    TokensOf.Stands (constructRule ks) TokenKind.ofConstruct text t :=
  (tokensOf_tokens ks text).stands TokenKind.ofConstruct_ne_text List.drop_zero t h

theorem firstBegins_of_mem_tokens {ks : Keywords} {text : List Char} {t : Token}
    (h : t ∈ tokens ks text) (hconstruct : t.isText = false) :
    FirstBegins ks (text.drop t.position) t.kind t.value := by
  obtain ⟨r, hrun, hkind, hvalue⟩ := (stands_of_mem_tokens h).of_construct hconstruct
  rw [hkind, hvalue]
  exact firstBegins_of_run hrun

/-- The tokens of a template tile it.  No construct begins inside a text token, and every other
    token is the first of marker, fallback and tag that begins at its place. -/
theorem tokens_tile (ks : Keywords) (text : List Char) :
    Covers 0 text.length (tokens ks text) ∧
    (text = [] → tokens ks text = []) ∧
    (tokens ks text).flatMap Token.value = text ∧
    (∀ t ∈ tokens ks text, t.value = (text.drop t.position).take (t.stop - t.position)) ∧
    (∀ t ∈ tokens ks text, t.isText = true → t.value ≠ []) ∧
    ((tokens ks text).IsChain fun t u => ¬ (t.isText = true ∧ u.isText = true)) ∧
    constructTokens ks text = (tokens ks text).filter (fun t => !t.isText) ∧
    (∀ t ∈ tokens ks text, t.isText = true →
      ∀ i, t.position ≤ i → i < t.stop → NothingBegins ks (text.drop i)) ∧
    (∀ t ∈ tokens ks text, t.isText = false →
      FirstBegins ks (text.drop t.position) t.kind t.value) := by
  have hkind := TokenKind.ofConstruct_ne_text
  have hts := tokensOf_tokens ks text
  refine ⟨?_, ?_, hts.flatMap_value, ?_, ?_, hts.isChain hkind, ?_, ?_, ?_⟩
  · have hcovers := hts.covers
    rwa [Nat.zero_add] at hcovers
  · rintro rfl
    simp [tokens, Token.ofScan]
  · intro t ht
    have hlength : t.stop - t.position = t.value.length := Nat.add_sub_cancel_left ..
    rw [hlength]
    exact (stands_of_mem_tokens ht).value_eq
  · intro t ht _
    exact (stands_of_mem_tokens ht).value_ne
  · exact Token.ofScan_false TokenKind.ofConstruct hkind _ _ _
  · intro t ht htext i hle hlt
    exact nothingBegins_of_run ((stands_of_mem_tokens ht).of_text htext i hle hlt)
  · intro t ht hconstruct
    exact firstBegins_of_mem_tokens ht hconstruct

end RecordTemplate.Template
