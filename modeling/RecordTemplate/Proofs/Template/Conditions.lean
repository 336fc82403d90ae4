/-
  RecordTemplate.Proofs.Template.Conditions

  The grammar of conditions, given as the ways to write one (`WrittenCondition`), and the proof
  that the parser accepts exactly these texts and reads them as what was written
  (`parse?_iff_written`).  A literal may have a quote on either side.  White space belongs to it
  on the sides where there is a quote, and to the text around it on the others; so a text can be
  written in several ways, but all of them mean the same condition.
-/

import RecordTemplate.Proofs.Template.Printing
import RecordTemplate.Template.Condition

namespace RecordTemplate.Template

open RecordTemplate.Text

/-! ## The grammar -/

/-- A text between percent signs: items of a chain, of which the first is no white space. -/
structure Span where
  inner : List Char
  ne : inner ≠ []
  chain : ChainText inner
  first : ∀ c, inner.head? = some c → isSpace c = false

def Span.text (t : Span) : List Char := '%' :: (t.inner ++ ['%'])

/-- White space of which there is some. -/
structure Gap extends Blank where
  ne : text ≠ []

/-- A single quote, or nothing. -/
def quoteIf (written : Bool) : List Char := if written then ['\''] else []

/-- A literal with its quotes, and the white space behind it. -/
structure WrittenLiteral where
  opened : Bool
  value : List Char
  plain : '\'' ∉ value
  closed : Bool
  after : Blank

namespace WrittenLiteral

def text (l : WrittenLiteral) : List Char :=
  quoteIf l.opened ++ (l.value ++ (quoteIf l.closed ++ l.after.text))

/-- The literal that is meant: without the white space on the sides that have no quote. -/
def meant (l : WrittenLiteral) : List Char :=
  match l.opened, l.closed with
  | true, true => l.value
  | true, false => trimRightBy isSpace l.value
  | false, true => l.value.dropWhile isSpace
  | false, false => trim l.value

end WrittenLiteral

/-- A condition as it can be written. -/
structure WrittenCondition where
  before : Blank
  tag : Span
  afterTag : Gap
  operator : Comparison
  afterOperator : Gap
  literal : WrittenLiteral

namespace WrittenCondition

def text (w : WrittenCondition) : List Char :=
  w.before.text ++ (w.tag.text ++ (w.afterTag.text ++
    (w.operator.symbol ++ (w.afterOperator.text ++ w.literal.text))))

def condition (w : WrittenCondition) : Condition := ⟨w.tag.text, w.operator, w.literal.meant⟩

end WrittenCondition

/-! ## Reading what was written -/

namespace Span

theorem head_ne (t : Span) : ∀ c, t.inner.head? = some c → c ≠ '%' ∧ isSpace c = false := by
  intro c hc
  refine ⟨?_, t.first c hc⟩
  rintro rfl
  obtain ⟨inner, ne, chain, first⟩ := t
  cases chain with
  | nil => exact ne rfl
  | char _ hpercent _ => exact hpercent (Option.some.inj hc)
  | quoted hq _ _ =>
    cases hc
    exact absurd hq (by decide)

/-- A span is behind all white space in front of it. -/
theorem isSpace_head (t : Span) (rest : List Char) :
    ∀ c, (t.text ++ rest).head? = some c → isSpace c = false := by
  rintro c ⟨⟩
  decide

/-- A span is read up to its own end, whatever follows. -/
theorem span?_text (t : Span) (rest : List Char) :
    Condition.span? (t.text ++ rest) = some (t.text, rest) := by
  obtain ⟨d, inner, hinner⟩ := List.exists_cons_of_ne_nil t.ne
  obtain ⟨hpercent, hspace⟩ := t.head_ne d (by rw [hinner]; rfl)
  have hread := t.chain.toPercent? rest
  rw [hinner, List.cons_append] at hread
  simp only [text, hinner, List.cons_append, List.append_assoc, List.nil_append, Condition.span?,
    hread, hspace]
  simp [hpercent]

theorem of_span? {s tag rest : List Char} (h : Condition.span? s = some (tag, rest)) :
    ∃ t : Span, tag = t.text ∧ s = t.text ++ rest := by
  unfold Condition.span? at h
  split at h
  · next c d u =>
    split at h
    · next hfirst =>
      obtain ⟨rfl, hpercent, hspace⟩ := hfirst
      obtain ⟨⟨inner, rest'⟩, hread, he⟩ := Option.map_eq_some_iff.1 h
      cases he
      have hsplit := eq_of_toPercent? hread
      cases inner with
      | nil => exact absurd (List.cons.inj hsplit).1 hpercent
      | cons e inner =>
        obtain rfl : d = e := (List.cons.inj hsplit).1
        have hd : ∀ x, (d :: inner).head? = some x → isSpace x = false := by
          rintro x ⟨⟩
          simpa using hspace
        refine ⟨⟨d :: inner, by simp, chainText_of_toPercent? hread, hd⟩, rfl, ?_⟩
        calc '%' :: d :: u = '%' :: (d :: inner ++ '%' :: rest') := by rw [hsplit]
          _ = '%' :: (d :: inner ++ ['%']) ++ rest' := by simp
    · cases h
  · cases h

end Span

namespace Gap

/-- All white space is skipped, also what follows a gap. -/
theorem afterSpace?_text (g : Gap) (rest : List Char) :
    Condition.afterSpace? (g.text ++ rest) = some (rest.dropWhile isSpace) := by
  obtain ⟨c, blank, hblank⟩ := List.exists_cons_of_ne_nil g.ne
  have hc : isSpace c = true := g.spaces c (by rw [hblank]; exact List.mem_cons_self)
  have hdrop : (g.text ++ rest).dropWhile isSpace = rest.dropWhile isSpace :=
    List.dropWhile_append_of_pos g.spaces
  rw [hblank, List.cons_append] at hdrop ⊢
  rw [Condition.afterSpace?, if_pos hc, hdrop]

theorem of_afterSpace? {s rest : List Char} (h : Condition.afterSpace? s = some rest) :
    ∃ g : Gap, s = g.text ++ rest ∧ ∀ c, rest.head? = some c → isSpace c = false := by
  unfold Condition.afterSpace? at h
  split at h
  · next c u =>
    split at h
    · next hc =>
      cases h
      have hne : (c :: u).takeWhile isSpace ≠ [] := by
        rw [List.takeWhile_cons_of_pos hc]
        simp
      have hblank : ∀ d ∈ (c :: u).takeWhile isSpace, isSpace d = true :=
        List.all_eq_true.1 List.all_takeWhile
      refine ⟨⟨⟨_, hblank⟩, hne⟩, List.takeWhile_append_dropWhile.symm, fun d hd => ?_⟩
      have := List.head?_dropWhile_not isSpace (c :: u)
      rw [hd] at this
      simpa using this
    · cases h
  · cases h

end Gap

/-- An operator is read up to the white space behind it: what is the beginning of another
    operator is not followed by white space there. -/
theorem operator?_symbol (op : Comparison) (g : Gap) (rest : List Char) :
    Condition.operator? (op.symbol ++ (g.text ++ rest)) = some (op, rest.dropWhile isSpace) := by
  have hgap := g.afterSpace?_text rest
  have hsign : Condition.afterSpace? ('=' :: (g.text ++ rest)) = none := rfl
  cases op <;>
    simp [Condition.operator?, Comparison.all, Comparison.symbol, after?, hgap, hsign]

theorem of_operator? {s rest : List Char} {op : Comparison}
    (h : Condition.operator? s = some (op, rest)) :
    ∃ g : Gap, s = op.symbol ++ (g.text ++ rest) ∧
      ∀ c, rest.head? = some c → isSpace c = false := by
  obtain ⟨op', -, hread⟩ := List.exists_of_findSome?_eq_some h
  obtain ⟨rest', hafter, he⟩ := Option.map_eq_some_iff.1 hread
  cases he
  obtain ⟨u, hsymbol, hspace⟩ := Option.bind_eq_some_iff.1 hafter
  obtain ⟨g, rfl, hrest⟩ := Gap.of_afterSpace? hspace
  exact ⟨g, after?_eq_some_iff.1 hsymbol, hrest⟩

/-! ## Literals -/

theorem Blank.not_mem (b : Blank) {c : Char} (hc : isSpace c = false) : c ∉ b.text := by
  intro hmem
  rw [b.spaces c hmem] at hc
  cases hc

namespace WrittenLiteral

theorem isSpace_quote : isSpace '\'' = false := by decide

/-- A literal behind a quote is read as it is meant. -/
theorem literal?_opened (value : List Char) (plain : '\'' ∉ value) (closed : Bool)
    (after : Blank) :
    Condition.literal? ((⟨true, value, plain, closed, after⟩ : WrittenLiteral).text.dropWhile
      isSpace) = some (⟨true, value, plain, closed, after⟩ : WrittenLiteral).meant := by
  have hall : after.text.all isSpace = true := List.all_eq_true.2 after.spaces
  cases closed with
  | true =>
    simp [text, meant, quoteIf, Condition.literal?, after?, isSpace_quote, cut?_singleton plain,
      hall]
  | false =>
    have hnone : cut? ['\''] (value ++ after.text) = none :=
      cut?_singleton_eq_none.2 (by simp [plain, after.not_mem isSpace_quote])
    simp [text, meant, quoteIf, Condition.literal?, after?, isSpace_quote, hnone,
      trimRightBy_append_of_forall after.spaces]

/-- A literal without a quote in front is read as it is meant. -/
theorem literal?_bare (value : List Char) (plain : '\'' ∉ value) (closed : Bool)
    (after : Blank) :
    Condition.literal? ((⟨false, value, plain, closed, after⟩ : WrittenLiteral).text.dropWhile
      isSpace) = some (⟨false, value, plain, closed, after⟩ : WrittenLiteral).meant := by
  have hafter : '\'' ∉ after.text := after.not_mem isSpace_quote
  have hplain : '\'' ∉ value.dropWhile isSpace := fun h =>
    plain ((List.dropWhile_sublist _).subset h)
  cases closed with
  | true =>
    have hall : after.text.all isSpace = true := List.all_eq_true.2 after.spaces
    have hdrop : (value ++ '\'' :: after.text).dropWhile isSpace =
        value.dropWhile isSpace ++ '\'' :: after.text :=
      dropWhile_append_of_head (by rintro c ⟨⟩; exact isSpace_quote)
    simp only [text, meant, quoteIf, Bool.false_eq_true, if_false, if_true, List.nil_append,
      List.cons_append, hdrop]
    cases hrest : value.dropWhile isSpace with
    | nil =>
      -- nothing stands before the quote, so it opens the empty literal
      have hnone : cut? ['\''] after.text = none := cut?_singleton_eq_none.2 hafter
      simp [Condition.literal?, after?, hnone, trimRightBy_of_forall after.spaces]
    | cons d ds =>
      rw [hrest] at hplain
      have hne : '\'' ≠ d := (List.ne_and_not_mem_of_not_mem_cons hplain).1
      have hcut := cut?_singleton hplain after.text
      rw [List.cons_append] at hcut
      simp [Condition.literal?, after?, hne, hcut, hall]
  | false =>
    have hboth : '\'' ∉ (value ++ after.text).dropWhile isSpace := fun h => by
      have hmem := (List.dropWhile_sublist _).subset h
      simp [plain, hafter] at hmem
    have htrim : trimRightBy isSpace ((value ++ after.text).dropWhile isSpace) = trim value :=
      trimBy_append_of_forall after.spaces
    simp [text, meant, quoteIf, Condition.literal?, after?_singleton_eq_none hboth,
      cut?_singleton_eq_none.2 hboth, htrim]

theorem literal?_text (l : WrittenLiteral) :
    Condition.literal? (l.text.dropWhile isSpace) = some l.meant := by
  obtain ⟨opened, value, plain, closed, after⟩ := l
  cases opened with
  | true => exact literal?_opened value plain closed after
  | false => exact literal?_bare value plain closed after

/-- What is read behind a quote can be written behind one. -/
theorem of_literal?_quote {s literal : List Char}
    (h : Condition.literal? ('\'' :: s) = some literal) :
    ∃ l : WrittenLiteral, '\'' :: s = l.text ∧ l.meant = literal := by
  simp only [Condition.literal?, after?, if_true, Option.getD_some] at h
  split at h
  · next hnone =>
    cases h
    refine ⟨⟨true, s, cut?_singleton_eq_none.1 hnone, false, .empty⟩, ?_, rfl⟩
    simp [text, quoteIf, Blank.empty]
  · next value rest hcut =>
    have hfirst := cut?_eq_some_iff.1 hcut
    split at h
    · next hall =>
      cases h
      refine ⟨⟨true, literal, hfirst.not_mem, true, ⟨rest, List.all_eq_true.1 hall⟩⟩, ?_, rfl⟩
      simp [text, quoteIf, hfirst.split]
    · cases h

/-- What is read of a text that begins neither with a quote nor with white space can be written
    without a quote in front. -/
theorem of_literal?_bare {s literal : List Char} (hs : ∀ c, s.head? = some c → isSpace c = false)
    (hquote : after? ['\''] s = none) (h : Condition.literal? s = some literal) :
    ∃ l : WrittenLiteral, s = l.text ∧ l.meant = literal := by
  simp only [Condition.literal?, hquote, Option.getD_none] at h
  split at h
  · next hnone =>
    cases h
    refine ⟨⟨false, s, cut?_singleton_eq_none.1 hnone, false, .empty⟩, ?_, ?_⟩
    · simp [text, quoteIf, Blank.empty]
    · rw [meant, trim, trimBy, dropWhile_eq_self hs]
  · next value rest hcut =>
    have hfirst := cut?_eq_some_iff.1 hcut
    split at h
    · next hall =>
      cases h
      have hhead : ∀ c, literal.head? = some c → isSpace c = false := by
        intro c hc
        refine hs c ?_
        rw [hfirst.split, List.head?_append, hc]
        rfl
      refine ⟨⟨false, literal, hfirst.not_mem, true, ⟨rest, List.all_eq_true.1 hall⟩⟩, ?_, ?_⟩
      · simp [text, quoteIf, hfirst.split]
      · rw [meant, dropWhile_eq_self hhead]
    · cases h

theorem of_literal? {s literal : List Char} (hs : ∀ c, s.head? = some c → isSpace c = false)
    (h : Condition.literal? s = some literal) :
    ∃ l : WrittenLiteral, s = l.text ∧ l.meant = literal := by
  cases hquote : after? ['\''] s with
  | none => exact of_literal?_bare hs hquote h
  | some rest =>
    obtain rfl : s = '\'' :: rest := after?_eq_some_iff.1 hquote
    exact of_literal?_quote h

end WrittenLiteral

/-! ## Conditions -/

namespace WrittenCondition

/-- What is written is parsed as what it means. -/
theorem parse?_text (w : WrittenCondition) : Condition.parse? w.text = some w.condition := by
  have hoperator : (w.operator.symbol ++ (w.afterOperator.text ++ w.literal.text)).dropWhile
      isSpace = w.operator.symbol ++ (w.afterOperator.text ++ w.literal.text) := by
    refine dropWhile_eq_self fun c hc => ?_
    cases hop : w.operator <;> rw [hop] at hc <;> cases hc <;> decide
  rw [Condition.parse?, text, dropWhile_span w.before.spaces (w.tag.isSpace_head _)]
  simp only [Option.bind_eq_bind, Span.span?_text, Option.bind_some, Gap.afterSpace?_text,
    hoperator, operator?_symbol, WrittenLiteral.literal?_text, condition]
  rfl

/-- What is parsed can be written. -/
theorem of_parse? {s : List Char} {c : Condition} (h : Condition.parse? s = some c) :
    ∃ w : WrittenCondition, s = w.text ∧ w.condition = c := by
  have hblank : ∀ d ∈ s.takeWhile isSpace, isSpace d = true :=
    List.all_eq_true.1 List.all_takeWhile
  obtain ⟨⟨tag, s₁⟩, hspan, h⟩ := Option.bind_eq_some_iff.1 h
  obtain ⟨s₂, hspace, h⟩ := Option.bind_eq_some_iff.1 h
  obtain ⟨⟨op, s₃⟩, hoperator, h⟩ := Option.bind_eq_some_iff.1 h
  obtain ⟨literal, hliteral, h⟩ := Option.bind_eq_some_iff.1 h
  cases h
  obtain ⟨t, rfl, hs⟩ := Span.of_span? hspan
  obtain ⟨g, rfl, -⟩ := Gap.of_afterSpace? hspace
  obtain ⟨g', rfl, hhead⟩ := of_operator? hoperator
  obtain ⟨l, rfl, rfl⟩ := WrittenLiteral.of_literal? hhead hliteral
  refine ⟨⟨⟨_, hblank⟩, t, g, op, g', l⟩, ?_, rfl⟩
  rw [text, ← hs, List.takeWhile_append_dropWhile]

end WrittenCondition

/-- A text is parsed as a condition exactly when it can be written as one, and however it can be,
    it is parsed as the condition that is written.  So the tag is the only span that the text
    begins with, and a literal in quotes comes back as it is. -/
theorem parse?_iff_written :
    (∀ s, (Condition.parse? s).isSome = true ↔ ∃ w : WrittenCondition, s = w.text) ∧
    (∀ w : WrittenCondition, Condition.parse? w.text = some w.condition) ∧
    (∀ (w : WrittenCondition) (before : Blank) (t : Span) (rest : List Char),
      w.text = before.text ++ (t.text ++ rest) → t.text = w.tag.text) ∧
    ∀ (before : Blank) (t : Span) (g : Gap) (op : Comparison) (g' : Gap) (literal : List Char)
      (after : Blank), '\'' ∉ literal →
        Condition.parse? (before.text ++ (t.text ++ (g.text ++ (op.symbol ++ (g'.text ++
          ('\'' :: (literal ++ '\'' :: after.text))))))) = some ⟨t.text, op, literal⟩ := by
  refine ⟨fun s => ⟨fun h => ?_, ?_⟩, WrittenCondition.parse?_text, ?_, ?_⟩
  · obtain ⟨c, hc⟩ := Option.isSome_iff_exists.1 h
    obtain ⟨w, hw, -⟩ := WrittenCondition.of_parse? hc
    exact ⟨w, hw⟩
  · rintro ⟨w, rfl⟩
    rw [w.parse?_text]
    rfl
  · intro w before t rest hw
    -- both spans are read behind the same white space
    have hread : ∀ (b : Blank) (t : Span) (rest : List Char),
        Condition.span? ((b.text ++ (t.text ++ rest)).dropWhile isSpace) = some (t.text, rest) := by
      intro b t rest
      rw [dropWhile_span b.spaces (t.isSpace_head rest), t.span?_text]
    have hsame := hread before t rest
    rw [← hw, WrittenCondition.text, hread] at hsame
    exact (congrArg Prod.fst (Option.some.inj hsame)).symm
  · intro before t g op g' literal after hplain
    have hparse := WrittenCondition.parse?_text
      ⟨before, t, g, op, g', ⟨true, literal, hplain, true, after⟩⟩
    simpa [WrittenCondition.text, WrittenLiteral.text, quoteIf, WrittenCondition.condition,
      WrittenLiteral.meant] using hparse

/-- A tag with a percent sign, an operator and a quote in its argument. -/
def quotedSpan : Span where
  inner := "custom:a|join('50% > \"')".toList
  ne := by decide
  chain := by
    have hquoted : ChainText ('\'' :: ("50% > \"".toList ++ '\'' :: [')'])) :=
      .quoted (by decide) (by decide) (.char (by decide) (by decide) .nil)
    have hplain : ChainText "custom:a|join(".toList := chainText_of_forall (by decide)
    exact hplain.append hquoted
  first := by
    rintro c ⟨⟩
    decide

/-- The literal begins with an operator and ends in white space. -/
theorem parse?_iff_written_quoted :
    [' '] ++ (quotedSpan.text ++ (['\t'] ++ (Comparison.atLeast.symbol ++ ([' ', ' '] ++
        ('\'' :: ("== %x%\n ".toList ++ '\'' :: ['\n'])))))) =
      " %custom:a|join('50% > \"')%\t>=  '== %x%\n '\n".toList ∧
    '\'' ∉ "== %x%\n ".toList ∧
    Condition.parse? ([' '] ++ (quotedSpan.text ++ (['\t'] ++ (Comparison.atLeast.symbol ++
        ([' ', ' '] ++ ('\'' :: ("== %x%\n ".toList ++ '\'' :: ['\n']))))))) =
      some ⟨quotedSpan.text, .atLeast, "== %x%\n ".toList⟩ := by
  have hplain : '\'' ∉ "== %x%\n ".toList := by decide
  have hparse := parse?_iff_written.2.2.2 ⟨[' '], by decide⟩ quotedSpan
    ⟨⟨['\t'], by decide⟩, by decide⟩ .atLeast ⟨⟨[' ', ' '], by decide⟩, by decide⟩ _
    ⟨['\n'], by decide⟩ hplain
  exact ⟨by decide, hplain, hparse⟩

end RecordTemplate.Template
