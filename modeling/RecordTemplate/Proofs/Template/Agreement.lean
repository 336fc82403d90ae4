/-
  RecordTemplate.Proofs.Template.Agreement

  The scan of a template and the parser of single tags and fallbacks agree: what one finds the
  other accepts, with the same parts and the same end (`parser_accepts_tokens`).  So a renderer
  that parses the text of every token again never meets a text that it cannot parse
  (`substitute_eq_substituteParsed`).
-/

import RecordTemplate.Proofs.Pass.Nesting
import RecordTemplate.Proofs.Template.Acceptance
import RecordTemplate.Proofs.Template.Tiling

namespace RecordTemplate.Template

/-! ## Tags -/

/-- Whether a text is one tag for the parser and for the scan. -/
structure ReadsAsTag (ks : Keywords) (u : List Char) : Prop where
  parsed : ∀ position, ∃ tag, Tag.parse? ks u position = some tag ∧ tag.text = u
  scanned : ∃ form, (tagRule ks).scan u = ⟨[⟨[], form, u⟩], []⟩

section Agreement

variable {ks : Keywords} {names : List String}

theorem IsTag.readsAsTag (hks : ks.Spells names) {u : List Char} (h : IsTag names u) :
    ReadsAsTag ks u := by
  obtain ⟨form, hform⟩ := h.tagForm? hks []
  rw [List.append_nil] at hform
  constructor
  · intro position
    exact ⟨_, Tag.parse?_of_tagForm? hform position, rfl⟩
  · refine ⟨form, ?_⟩
    have hrun : (tagRule ks).run u = some ⟨form, u, []⟩ := hform
    rw [Recogniser.scan_of_run hrun, Recogniser.scan_nil]
    rfl

theorem isTag_of_run (hks : ks.Spells names) {s : List Char} {r : Reading TagForm}
    (h : (tagRule ks).run s = some r) : IsTag names r.text :=
  isTag_of_mem_tagForms hks ((tagForm?_eq_some_iff hks).1 h)

/-- A tag that was found is read again from its own text, with the same parts. -/
theorem run_text (hks : ks.Spells names) {s : List Char} {r : Reading TagForm}
    (h : (tagRule ks).run s = some r) : (tagRule ks).run r.text = some ⟨r.item, r.text, []⟩ := by
  have hmem : r ∈ tagForms ks s := (tagForm?_eq_some_iff hks).1 h
  obtain ⟨t, rfl⟩ := eq_percent_of_mem_tagForms hmem
  obtain ⟨k, hk, hread⟩ := List.mem_filterMap.1 hmem
  obtain ⟨v, hv, hagain⟩ := withKeyword?_eq_some hread
  have hwhole : ⟨r.item, r.text, []⟩ ∈ tagForms ks r.text := by
    rw [hv, tagForms_percent, ← hv]
    exact List.mem_filterMap.2 ⟨k, hk, hagain []⟩
  exact (tagForm?_eq_some_iff hks).2 hwhole

theorem isTag_of_mem_tagTexts (hks : ks.Spells names) {text u : List Char}
    (h : u ∈ tagTexts ks text) : IsTag names u := by
  obtain ⟨f, hf, rfl⟩ := List.mem_map.1 h
  obtain ⟨t, rest, -, hrun⟩ := (tagRule ks).run_of_mem_found text f hf
  exact isTag_of_run hks hrun

theorem isTag_of_parse? (hks : ks.Spells names) {s : List Char} {position : Int}
    {b : FallbackBlock} (h : FallbackBlock.parse? ks s position = some b) :
    IsTag names b.tagText := by
  obtain ⟨form, hform, rfl⟩ := Option.map_eq_some_iff.1 h
  obtain ⟨tag, hmem, hwhole⟩ := List.exists_of_findSome?_eq_some hform
  have htext : form.tagText = tag.text := by
    unfold FallbackForm.wholeOfTag? at hwhole
    split at hwhole
    · cases hwhole
    · obtain ⟨body, -, rfl⟩ := Option.map_eq_some_iff.1 hwhole
      rfl
  have htag : IsTag names tag.text := isTag_of_mem_tagForms hks hmem
  rwa [← htext] at htag

/-! ## Tokens -/

theorem run_of_firstBegins_tag {s value : List Char} (h : FirstBegins ks s .tag value) :
    ∃ r, (tagRule ks).run s = some r ∧ value = r.text := by
  unfold FirstBegins at h
  split at h
  · exact absurd h.1 (by simp)
  · exact absurd h.1 (by simp)
  · next r _ _ hrun => exact ⟨r, hrun, h.2⟩
  · exact h.elim

theorem run_of_firstBegins_fallback {s value : List Char}
    (h : FirstBegins ks s .fallback value) :
    ∃ r, (fallbackRule ks).run s = some r ∧ value = r.text := by
  unfold FirstBegins at h
  split at h
  · exact absurd h.1 (by simp)
  · next r _ hrun => exact ⟨r, hrun, h.2⟩
  · exact absurd h.1 (by simp)
  · exact h.elim

theorem isTag_of_mem_tokens (hks : ks.Spells names) {text : List Char} {t : Token}
    (h : t ∈ tokens ks text) (hkind : t.kind = .tag) : IsTag names t.value := by
  have hfirst := firstBegins_of_mem_tokens h (by simp [Token.isText, hkind])
  rw [hkind] at hfirst
  obtain ⟨r, hrun, hvalue⟩ := run_of_firstBegins_tag hfirst
  rw [hvalue]
  exact isTag_of_run hks hrun

/-- What the parser makes of a text at a place if it is a fallback: a tag, the opening mark, a
    body without the closing mark, and the closing mark. -/
structure ReadsAsFallback (ks : Keywords) (position : Nat) (value : List Char) (stop : Nat)
    (b : FallbackBlock) : Prop where
  parsed : FallbackBlock.parse? ks value position = some b
  position_eq : b.position = position
  stop_eq : b.stop = stop
  value_eq : value = b.tagText ++ FallbackForm.openMark ++ b.body ++ FallbackForm.closeMark
  body_open : ¬ FallbackForm.closeMark <:+: b.body

theorem readsAsFallback_of_mem_tokens (hks : ks.Spells names) {text : List Char} {t : Token}
    (h : t ∈ tokens ks text) (hkind : t.kind = .fallback) :
    ∃ b, ReadsAsFallback ks t.position t.value t.stop b := by
  have hfirst := firstBegins_of_mem_tokens h (by simp [Token.isText, hkind])
  rw [hkind] at hfirst
  obtain ⟨r, hrun, hvalue⟩ := run_of_firstBegins_fallback hfirst
  obtain ⟨u, v, body, -, -, hcut, hitem, htext⟩ := FallbackForm.parts_of_run hks hrun
  have hparse := FallbackBlock.parse?_of_run hrun t.position
  rw [← hvalue, hitem] at hparse
  refine ⟨_, hparse, rfl, ?_, ?_, ?_⟩
  · simp [Token.stop]
  · rw [hvalue, htext]
  · exact hcut.not_infix (by decide)

end Agreement
end RecordTemplate.Template

namespace RecordTemplate.Render

open RecordTemplate.Template

/-! ## Substitution with every text parsed again -/

section Parsed

variable {m : Type → Type} [Monad m]

/-- A text with its tags replaced, each parsed from its own text; `absent` is what becomes of a
    text that cannot be parsed. -/
def substituteParsedTags (ks : Keywords) (renderTag : Tag → m (List Char))
    (absent : List Char → m (List Char)) (text : List Char) : m (List Char) :=
  replaceFound (fun f =>
    match Tag.parse? ks f.text 0 with
    | some tag => renderTag tag
    | none => absent f.text) ((tagRule ks).scan text)

/-- A text with its fallbacks and tags replaced, each parsed from its own text. -/
def substituteParsed (ks : Keywords) (renderTag : Tag → m (List Char))
    (renderFallback : FallbackForm → m (List Char)) (absent : List Char → m (List Char))
    (text : List Char) : m (List Char) :=
  replaceFound (fun f =>
    match f.item with
    | .fallback _ =>
      match FallbackBlock.parse? ks f.text 0 with
      | some b => renderFallback ⟨b.tagText, b.body⟩
      | none => absent f.text
    | .tag _ | .marker _ => substituteParsedTags ks renderTag absent f.text)
    ((constructRule ks).scan text)

variable [LawfulMonad m]

theorem substituteTags_eq_substituteParsedTags (ks : Keywords) (renderTag : Tag → m (List Char))
    (absent : List Char → m (List Char)) (text : List Char) :
    substituteTags ks renderTag text = substituteParsedTags ks renderTag absent text := by
  refine replaceFound_congr fun f hf => ?_
  rw [Tag.parse?_of_mem_found hf 0]

/-- A text that is one tag is replaced as a whole. -/
theorem substituteTags_of_run {ks : Keywords} {u : List Char} {form : TagForm}
    (h : (tagRule ks).run u = some ⟨form, u, []⟩) (renderTag : Tag → m (List Char)) :
    substituteTags ks renderTag u = renderTag (Tag.ofForm form u 0) := by
  rw [substituteTags, Recogniser.scan_of_run h, Recogniser.scan_nil]
  simp [replaceFound, Scan.cons]

theorem run_of_construct {ks : Keywords} {s value rest : List Char} {form : TagForm}
    (h : (constructRule ks).run s = some ⟨.tag form, value, rest⟩) :
    (tagRule ks).run s = some ⟨form, value, rest⟩ := by
  change Construct.run ks s = _ at h
  unfold Construct.run at h
  split at h
  · cases h
  · split at h
    · cases h
    · obtain ⟨r, hrun, he⟩ := Option.map_eq_some_iff.1 h
      cases he
      exact hrun

/-- Whatever would become of a text that cannot be parsed, it never happens. -/
theorem substitute_eq_substituteParsed {ks : Keywords} {names : List String}
    (hks : ks.Spells names) (renderTag : Tag → m (List Char))
    (renderFallback : FallbackForm → m (List Char)) (absent : List Char → m (List Char))
    (text : List Char) :
    substitute ks renderTag renderFallback text =
      substituteParsed ks renderTag renderFallback absent text := by
  refine replaceFound_congr fun f hf => ?_
  have hread := Construct.isReread_of_mem_found hf 0
  obtain ⟨t, rest, -, hrun⟩ := (constructRule ks).run_of_mem_found text f hf
  obtain ⟨lead, item, value⟩ := f
  cases item with
  | fallback form =>
    have hparse : FallbackBlock.parse? ks value 0 = some _ := hread
    simp only [hparse]
  | tag form =>
    have hwhole := run_text hks (run_of_construct hrun)
    simp only
    rw [← substituteTags_eq_substituteParsedTags, substituteTags_of_run hwhole]
  | marker mk =>
    exact substituteTags_eq_substituteParsedTags ks renderTag absent value

end Parsed

/-! ## The parser and the scan -/

/-- If everything can be parsed, nothing is left out. -/
theorem map_text_filterMap {ks : Keywords} {us : List (List Char)}
    (h : ∀ u ∈ us, ReadsAsTag ks u) :
    (us.filterMap fun u => Tag.parse? ks u 0).map Tag.text = us := by
  induction us with
  | nil => rfl
  | cons u us ih =>
    obtain ⟨tag, hparse, htext⟩ := (h u List.mem_cons_self).parsed 0
    have hrest := ih fun v hv => h v (List.mem_cons_of_mem _ hv)
    simp only [List.filterMap_cons, hparse, List.map_cons, htext, hrest]

/-- The parser accepts what the scan with its keywords finds: every fallback token is a fallback
    with this place, end and parts, and every tag token, every tag of a fallback and every text
    that is found as a tag is one tag as a whole.  So nothing is left out when the tags of a
    template are checked, and rendering never meets a text that cannot be parsed. -/
theorem parser_accepts_tokens {names : List String} (hnames : ∀ name ∈ names, IsPlainWord name)
    (text : List Char) :
    let ks := Keywords.ofListOrStandard names
    (names ≠ [] → ks = Keywords.ofList names) ∧
    (∀ t ∈ tokens ks text, t.kind = .fallback →
      ∃ b, ReadsAsFallback ks t.position t.value t.stop b) ∧
    (∀ t ∈ tokens ks text, t.kind = .tag → ReadsAsTag ks t.value) ∧
    (∀ s position b, FallbackBlock.parse? ks s position = some b → ReadsAsTag ks b.tagText) ∧
    (∀ u ∈ tagTexts ks text, ReadsAsTag ks u) ∧
    ((tagTexts ks text).filterMap fun u => Tag.parse? ks u 0).map Tag.text = tagTexts ks text ∧
    ∀ {m : Type → Type} [Monad m] [LawfulMonad m] (renderTag : Tag → m (List Char))
      (renderFallback : FallbackForm → m (List Char)) (absent : List Char → m (List Char)),
      substituteTags ks renderTag text = substituteParsedTags ks renderTag absent text ∧
      substitute ks renderTag renderFallback text =
        substituteParsed ks renderTag renderFallback absent text := by
  intro ks
  have hks : ks.Spells (Keywords.namesInUse names) := Keywords.spells_ofListOrStandard hnames
  have htags : ∀ u ∈ tagTexts ks text, ReadsAsTag ks u := by
    intro u hu
    exact (isTag_of_mem_tagTexts hks hu).readsAsTag hks
  refine ⟨Keywords.ofListOrStandard_of_ne, ?_, ?_, ?_, htags, map_text_filterMap htags, ?_⟩
  · intro t ht hkind
    exact readsAsFallback_of_mem_tokens hks ht hkind
  · intro t ht hkind
    exact (isTag_of_mem_tokens hks ht hkind).readsAsTag hks
  · intro s position b hparse
    exact (isTag_of_parse? hks hparse).readsAsTag hks
  · intro m _ _ renderTag renderFallback absent
    exact ⟨substituteTags_eq_substituteParsedTags ks renderTag absent text,
      substitute_eq_substituteParsed hks renderTag renderFallback absent text⟩

/-- A fallback whose tag has a keyword that another one begins with, and a percent sign in
    quotes. -/
theorem parser_accepts_tokens_quoted :
    (∀ name ∈ ["custom", "custom-field"], IsPlainWord name) ∧
      ReadsAsTag (Keywords.ofListOrStandard ["custom", "custom-field"])
        "%custom-field:a|append('%')%".toList := by
  have hnames : ∀ name ∈ ["custom", "custom-field"], IsPlainWord name := by decide
  have hlongest : Keywords.ofListOrStandard ["custom", "custom-field"] =
      ⟨["custom-field".toList, "custom".toList]⟩ := by
    simp [Keywords.ofListOrStandard, Keywords.ofList, List.mergeSort,
      List.MergeSort.Internal.splitInTwo]
  have hparse : FallbackBlock.parse? (Keywords.ofListOrStandard ["custom", "custom-field"])
      "%custom-field:a|append('%')%[fallback]none[/fallback]".toList 3 =
        some ⟨3, 56, "%custom-field:a|append('%')%".toList, "none".toList⟩ := by
    rw [hlongest]
    decide
  exact ⟨hnames, (parser_accepts_tokens hnames []).2.2.2.1 _ _ _ hparse⟩

end RecordTemplate.Render
