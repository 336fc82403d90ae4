/-
  RecordTemplate.Proofs.Template.Acceptance

  The readers of tags and fallbacks, with any list of keywords, accept exactly the grammar
  (`readers_accept_grammar`): what is found at a place is what the grammar has there, a fallback
  ends with the first closing mark, and a text is parsed as a tag just if it is one, but for
  white space around it.
-/

import RecordTemplate.Proofs.Template.Grammar

namespace RecordTemplate.Template

open RecordTemplate.Text

/-! ## Tags read with a list of keywords -/

namespace Keywords

/-- The names that a list of keywords stands for: the standard ones if it is empty. -/
def namesInUse (names : List String) : List String :=
  if names.isEmpty then standardNames else names

section

variable {names : List String}

theorem namesInUse_of_ne (hne : names ≠ []) : namesInUse names = names := by
  have hempty : names.isEmpty = false := by simpa using hne
  simp [namesInUse, hempty]

theorem ofListOrStandard_of_ne (hne : names ≠ []) : ofListOrStandard names = ofList names := by
  have hempty : names.isEmpty = false := by simpa using hne
  simp [ofListOrStandard, hempty]

end

/-- Whether tags are tried with just these names. -/
structure Spells (ks : Keywords) (names : List String) : Prop where
  mem_iff : ∀ k, k ∈ ks.words ↔ ∃ name ∈ names, name.toList = k
  isPlainWord : ∀ name ∈ names, IsPlainWord name

theorem spells_ofList {names : List String} (hne : names ≠ [])
    (hnames : ∀ name ∈ names, IsPlainWord name) : (ofList names).Spells names where
  mem_iff k := by
    have hempty : names.isEmpty = false := by simpa using hne
    simp [ofList, hempty]
  isPlainWord := hnames

theorem isPlainWord_standardNames : ∀ name ∈ standardNames, IsPlainWord name := by
  decide

theorem spells_ofListOrStandard {names : List String} (hnames : ∀ name ∈ names, IsPlainWord name) :
    (ofListOrStandard names).Spells (namesInUse names) := by
  have hne : namesInUse names ≠ [] := by
    unfold namesInUse
    split
    · simp [standardNames]
    · next h => simpa using h
  have hall : ∀ name ∈ namesInUse names, IsPlainWord name := by
    intro name hmem
    unfold namesInUse at hmem
    split at hmem
    · exact isPlainWord_standardNames name hmem
    · exact hnames name hmem
  exact spells_ofList hne hall

end Keywords

section Reading

variable {ks : Keywords} {names : List String}

/-- What is read at the beginning of a text is a tag. -/
theorem parts_of_mem_tagForms (hks : ks.Spells names) {s : List Char} {r : Reading TagForm}
    (h : r ∈ tagForms ks s) :
    ∃ tail, TagParts names r.item.source r.item.path tail ∧
      r.text = tagText r.item.source r.item.path tail ∧ s = r.text ++ r.rest := by
  obtain ⟨-, hsplit⟩ := splits_of_mem_tagForms h
  obtain ⟨t, rfl⟩ := eq_percent_of_mem_tagForms h
  obtain ⟨k, hk, hread⟩ := List.mem_filterMap.1 h
  obtain ⟨tail, rfl, hne, hpath, htail, htext⟩ := parts_of_withKeyword? hread
  exact ⟨tail, ⟨(hks.mem_iff _).1 hk, hne, hpath, htail⟩, htext, hsplit⟩

/-- A tag at the beginning of a text is read. -/
theorem TagParts.mem_tagForms (hks : ks.Spells names) {k path tail : List Char}
    (h : TagParts names k path tail) (rest : List Char) :
    ⟨⟨k, path, tailChain tail⟩, tagText k path tail, rest⟩ ∈
      tagForms ks (tagText k path tail ++ rest) := by
  have hread := @withKeyword?_of_parts k _ _ h.path_ne h.path_chars h.isTail rest
  have hmem : k ∈ ks.words := (hks.mem_iff k).2 h.keyword_mem
  have htext : tagText k path tail ++ rest =
      '%' :: (k ++ ':' :: (path ++ (tail ++ '%' :: rest))) := by simp [tagText]
  rw [htext, tagForms_percent]
  exact List.mem_filterMap.2 ⟨k, hmem, hread⟩

/-- There is one reading at most. -/
theorem eq_of_mem_tagForms (hks : ks.Spells names) {s : List Char} {r r' : Reading TagForm}
    (h : r ∈ tagForms ks s) (h' : r' ∈ tagForms ks s) : r = r' := by
  obtain ⟨tail, hparts, htext, hsplit⟩ := parts_of_mem_tagForms hks h
  obtain ⟨tail', hparts', htext', hsplit'⟩ := parts_of_mem_tagForms hks h'
  obtain ⟨t, rfl⟩ := eq_percent_of_mem_tagForms h
  obtain ⟨k, -, hread⟩ := List.mem_filterMap.1 h
  obtain ⟨k', -, hread'⟩ := List.mem_filterMap.1 h'
  obtain ⟨-, hk, -⟩ := parts_of_withKeyword? hread
  obtain ⟨-, hk', -⟩ := parts_of_withKeyword? hread'
  have hsame : tagText r.item.source r.item.path tail ++ r.rest =
      tagText r'.item.source r'.item.path tail' ++ r'.rest := by
    rw [← htext, ← htext', ← hsplit, ← hsplit']
  obtain ⟨hsource, -⟩ := hparts.unique hks.isPlainWord hparts' hsame
  -- both are read with the same keyword
  rw [hk, hk'] at hsource
  rw [hsource, hread'] at hread
  exact (Option.some.inj hread).symm

theorem tagForm?_eq_some_iff (hks : ks.Spells names) {s : List Char} {r : Reading TagForm} :
    tagForm? ks s = some r ↔ r ∈ tagForms ks s := by
  constructor
  · intro h
    exact List.mem_of_head? h
  · intro h
    cases hforms : tagForms ks s with
    | nil =>
      rw [hforms] at h
      cases h
    | cons r' rs =>
      have hmem : r' ∈ tagForms ks s := by rw [hforms]; exact List.mem_cons_self
      rw [eq_of_mem_tagForms hks h hmem, tagForm?, hforms]
      rfl

/-- A text that is a tag is read as a whole. -/
theorem IsTag.tagForm? (hks : ks.Spells names) {u : List Char} (h : IsTag names u)
    (rest : List Char) : ∃ form, tagForm? ks (u ++ rest) = some ⟨form, u, rest⟩ := by
  obtain ⟨k, path, tail, hparts, rfl⟩ := h
  exact ⟨_, (tagForm?_eq_some_iff hks).2 (hparts.mem_tagForms hks rest)⟩

theorem isTag_of_mem_tagForms (hks : ks.Spells names) {s : List Char} {r : Reading TagForm}
    (h : r ∈ tagForms ks s) : IsTag names r.text := by
  obtain ⟨tail, hparts, htext, -⟩ := parts_of_mem_tagForms hks h
  exact ⟨_, _, tail, hparts, htext⟩

theorem tagForm?_isSome_iff (hks : ks.Spells names) {s : List Char} :
    (tagForm? ks s).isSome = true ↔ ∃ u, IsTag names u ∧ u <+: s := by
  constructor
  · intro h
    obtain ⟨r, hr⟩ := Option.isSome_iff_exists.1 h
    have hmem : r ∈ tagForms ks s := List.mem_of_head? hr
    obtain ⟨-, hsplit⟩ := splits_of_mem_tagForms hmem
    exact ⟨r.text, isTag_of_mem_tagForms hks hmem, r.rest, hsplit.symm⟩
  · rintro ⟨u, hu, rest, rfl⟩
    obtain ⟨form, hform⟩ := hu.tagForm? hks rest
    rw [hform]
    rfl

/-- The parser accepts just the tags with white space around them. -/
theorem Tag.parse?_isSome_iff (hks : ks.Spells names) {s : List Char} {position : Int} :
    (Tag.parse? ks s position).isSome = true ↔ IsTag names (trim s) := by
  rw [Tag.parse?, Option.isSome_map, List.find?_isSome]
  constructor
  · rintro ⟨r, hmem, hrest⟩
    obtain ⟨-, hsplit⟩ := splits_of_mem_tagForms hmem
    have hnil : r.rest = [] := by simpa using hrest
    rw [hsplit, hnil, List.append_nil]
    exact isTag_of_mem_tagForms hks hmem
  · intro h
    obtain ⟨form, hform⟩ := h.tagForm? hks []
    rw [List.append_nil] at hform
    exact ⟨_, List.mem_of_head? hform, rfl⟩

/-! ## Fallbacks -/

namespace FallbackForm

/-- A tag goes on as a fallback just if both marks follow, and it ends at the first closing
    mark. -/
theorem ofTag?_eq_some_iff {tag : Reading TagForm} {r : Reading FallbackForm} :
    ofTag? tag = some r ↔ ∃ t body, tag.rest = openMark ++ t ∧
      IsFirstCut closeMark t body r.rest ∧ r.item = ⟨tag.text, body⟩ ∧
      r.text = tag.text ++ openMark ++ body ++ closeMark := by
  unfold ofTag?
  cases hafter : after? openMark tag.rest with
  | none =>
    constructor
    · intro h
      cases h
    · rintro ⟨t, body, hrest, -⟩
      rw [after?_eq_some_iff.2 hrest] at hafter
      cases hafter
  | some t =>
    constructor
    · intro h
      obtain ⟨⟨body, rest⟩, hcut, rfl⟩ := Option.map_eq_some_iff.1 h
      exact ⟨t, body, after?_eq_some_iff.1 hafter, cut?_eq_some_iff.1 hcut, rfl, rfl⟩
    · rintro ⟨t', body, hrest, hcut, hitem, htext⟩
      rw [after?_eq_some_iff.2 hrest] at hafter
      obtain rfl : t' = t := Option.some.inj hafter
      obtain ⟨item, text, rest⟩ := r
      simp only at hitem htext hcut
      simp only [cut?_eq_some_iff.2 hcut, Option.map_some, hitem, htext]

theorem run_eq_some_iff (hks : ks.Spells names) {s : List Char} {r : Reading FallbackForm} :
    run ks s = some r ↔ ∃ tag ∈ tagForms ks s, ofTag? tag = some r := by
  constructor
  · exact List.exists_of_findSome?_eq_some
  · rintro ⟨tag, hmem, hof⟩
    have hsome : (run ks s).isSome = true := by
      rw [run, List.findSome?_isSome_iff]
      exact ⟨tag, hmem, by rw [hof]; rfl⟩
    obtain ⟨r', hr'⟩ := Option.isSome_iff_exists.1 hsome
    obtain ⟨tag', hmem', hof'⟩ := List.exists_of_findSome?_eq_some hr'
    -- there is no other tag to go on from
    rw [eq_of_mem_tagForms hks hmem' hmem, hof] at hof'
    rw [hr', ← hof']

/-- What a fallback is made of. -/
theorem parts_of_run (hks : ks.Spells names) {s : List Char} {r : Reading FallbackForm}
    (h : run ks s = some r) :
    ∃ u v body, IsTag names u ∧ s = u ++ openMark ++ v ∧ IsFirstCut closeMark v body r.rest ∧
      r.item = ⟨u, body⟩ ∧ r.text = u ++ openMark ++ body ++ closeMark := by
  obtain ⟨tag, hmem, hof⟩ := (run_eq_some_iff hks).1 h
  obtain ⟨-, hsplit⟩ := splits_of_mem_tagForms hmem
  obtain ⟨v, body, hrest, hcut, hitem, htext⟩ := ofTag?_eq_some_iff.1 hof
  refine ⟨tag.text, v, body, isTag_of_mem_tagForms hks hmem, ?_, hcut, hitem, htext⟩
  rw [hsplit, hrest, List.append_assoc]

/-- A fallback begins a text just if a tag, the opening mark and later a closing mark do. -/
theorem run_isSome_iff (hks : ks.Spells names) {s : List Char} :
    (run ks s).isSome = true ↔
      ∃ u v, IsTag names u ∧ s = u ++ openMark ++ v ∧ closeMark <:+: v := by
  constructor
  · intro h
    obtain ⟨r, hr⟩ := Option.isSome_iff_exists.1 h
    obtain ⟨u, v, body, hu, hs, hcut, -, -⟩ := parts_of_run hks hr
    refine ⟨u, v, hu, hs, body, r.rest, ?_⟩
    rw [hcut.split, List.append_assoc]
  · rintro ⟨u, v, hu, rfl, b, r, hv⟩
    obtain ⟨form, hform⟩ := hu.tagForm? hks (openMark ++ v)
    rw [← List.append_assoc] at hform
    have hmem := (tagForm?_eq_some_iff hks).1 hform
    have hsome : (cut? closeMark v).isSome = true :=
      cut?_isSome_iff.2 ⟨b, r, by rw [← List.append_assoc, hv]⟩
    obtain ⟨⟨body, rest⟩, hcut⟩ := Option.isSome_iff_exists.1 hsome
    have hrun : run ks (u ++ openMark ++ v) =
        some ⟨⟨u, body⟩, u ++ openMark ++ body ++ closeMark, rest⟩ :=
      (run_eq_some_iff hks).2 ⟨_, hmem,
        ofTag?_eq_some_iff.2 ⟨v, body, rfl, cut?_eq_some_iff.1 hcut, rfl, rfl⟩⟩
    rw [hrun]
    rfl

end FallbackForm

end Reading

/-! ## The readers and the grammar -/

/-- What the readers find at the beginning of a text is what the grammar has there. -/
structure ReadsGrammar (ks : Keywords) (names : List String) (s : List Char) : Prop where
  /-- A tag is found just if the text begins with one. -/
  tag_iff : ((tagRule ks).run s).isSome = true ↔ ∃ u, IsTag names u ∧ u <+: s
  /-- The tag that is found has the source and the path that it was found with. -/
  tag_parts : ∀ r, (tagRule ks).run s = some r →
    ∃ tail, TagParts names r.item.source r.item.path tail ∧
      r.text = tagText r.item.source r.item.path tail ∧ s = r.text ++ r.rest
  /-- There is one way at most to take a tag off the text. -/
  tag_unique : ∀ k path tail k' path' tail', TagParts names k path tail →
    TagParts names k' path' tail' → tagText k path tail <+: s → tagText k' path' tail' <+: s →
      k = k' ∧ path = path' ∧ tail = tail'
  /-- A fallback is found just if a tag, the opening mark and later a closing mark follow. -/
  fallback_iff : ((fallbackRule ks).run s).isSome = true ↔
    ∃ u v, IsTag names u ∧ s = u ++ FallbackForm.openMark ++ v ∧ FallbackForm.closeMark <:+: v
  /-- The fallback that is found ends with the first closing mark. -/
  fallback_parts : ∀ r, (fallbackRule ks).run s = some r →
    ∃ u v body, IsTag names u ∧ s = u ++ FallbackForm.openMark ++ v ∧
      IsFirstCut FallbackForm.closeMark v body r.rest ∧ r.item = ⟨u, body⟩ ∧
      r.text = u ++ FallbackForm.openMark ++ body ++ FallbackForm.closeMark

theorem readsGrammar {ks : Keywords} {names : List String} (hks : ks.Spells names)
    (s : List Char) : ReadsGrammar ks names s where
  tag_iff := tagForm?_isSome_iff hks
  tag_parts r hr := parts_of_mem_tagForms hks ((tagForm?_eq_some_iff hks).1 hr)
  tag_unique k path tail k' path' tail' h h' hpre hpre' := by
    obtain ⟨rest, hrest⟩ := hpre
    obtain ⟨rest', hrest'⟩ := hpre'
    obtain ⟨hk, hpath, htail, -⟩ := h.unique hks.isPlainWord h' (hrest.trans hrest'.symm)
    exact ⟨hk, hpath, htail⟩
  fallback_iff := FallbackForm.run_isSome_iff hks
  fallback_parts r hr := FallbackForm.parts_of_run hks hr

/-- The readers accept exactly the grammar, at every place of every text: for a list of keywords
    that is not empty with these keywords, and for the empty list with the standard ones. -/
theorem readers_accept_grammar {names : List String} (hnames : ∀ name ∈ names, IsPlainWord name) :
    (names ≠ [] → Keywords.ofListOrStandard names = Keywords.ofList names ∧
      Keywords.namesInUse names = names) ∧
    (∀ (text : List Char) (p : Nat), ReadsGrammar (Keywords.ofListOrStandard names)
      (Keywords.namesInUse names) (text.drop p)) ∧
    ∀ (s : List Char) (position : Int),
      (Tag.parse? (Keywords.ofListOrStandard names) s position).isSome = true ↔
        IsTag (Keywords.namesInUse names) (trim s) := by
  have hks := Keywords.spells_ofListOrStandard hnames
  refine ⟨?_, ?_, ?_⟩
  · intro hne
    exact ⟨Keywords.ofListOrStandard_of_ne hne, Keywords.namesInUse_of_ne hne⟩
  · intro text p
    exact readsGrammar hks (text.drop p)
  · intro s position
    exact Tag.parse?_isSome_iff hks

/-- White space after the bar is the chain if nothing else follows it. -/
theorem readers_accept_grammar_blank :
    (∀ name ∈ ["custom", "custom-field"], IsPlainWord name) ∧
      ((tagRule (Keywords.ofListOrStandard ["custom", "custom-field"])).run
        ("see %custom-field:a| %".toList.drop 4)).isSome = true := by
  have hnames : ∀ name ∈ ["custom", "custom-field"], IsPlainWord name := by decide
  have hread := ((readers_accept_grammar hnames).2.1 "see %custom-field:a| %".toList 4).tag_iff
  refine ⟨hnames, hread.2 ⟨"%custom-field:a| %".toList, ?_, by decide⟩⟩
  refine ⟨"custom-field".toList, ['a'], ['|', ' '], ⟨?_, by decide, by decide, ?_⟩, by decide⟩
  · exact ⟨"custom-field", by simp [Keywords.namesInUse], rfl⟩
  · exact @TagTail.chain [] [' '] (by simp) (by decide)
      (ChainText.char (by decide) (by decide) ChainText.nil)

/-- A parser without keywords reads tags all the same: it uses the standard keywords. -/
theorem not_forall_parse?_iff_isTag :
    ¬ ∀ names : List String, (∀ name ∈ names, IsPlainWord name) →
      ∀ (s : List Char) (position : Int),
        (Tag.parse? (Keywords.ofListOrStandard names) s position).isSome = true ↔
          IsTag names (trim s) := by
  intro h
  have hks := @Keywords.spells_ofListOrStandard [] (by simp)
  have hparts : TagParts (Keywords.namesInUse []) "custom".toList ['a'] [] :=
    ⟨⟨"custom", by simp [Keywords.namesInUse, Keywords.standardNames], rfl⟩, by decide, by decide,
      TagTail.none⟩
  have htag : IsTag (Keywords.namesInUse []) (trim "%custom:a%".toList) :=
    ⟨_, _, _, hparts, by decide⟩
  have hsome : (Tag.parse? (Keywords.ofListOrStandard []) "%custom:a%".toList 0).isSome = true :=
    (Tag.parse?_isSome_iff hks).2 htag
  -- but no name is in the list that was given
  obtain ⟨_, _, _, hnone, -⟩ := (h [] (by simp) _ 0).1 hsome
  obtain ⟨name, hmem, -⟩ := hnone.keyword_mem
  exact absurd hmem List.not_mem_nil

end RecordTemplate.Template
