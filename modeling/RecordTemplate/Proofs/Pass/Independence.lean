/-
  RecordTemplate.Proofs.Pass.Independence

  How the tags of a pass influence each other.  The values fetched have no influence, since a
  data source would answer the same again (`Resolver.Fetched`).  The terms have one: they are
  kept under the bare name of a field, so the filter for term links finds for a tag what another
  tag has left there (`Pass.foreignTerms?`).  With built-in filters there is no other influence:
  in every state of a pass the texts of the tags rendered follow from the terms that the tags
  before them have kept (`Pass.Traced`).
-/

import Mathlib
import RecordTemplate.Proofs.Filter.Context
import RecordTemplate.Proofs.Pass.Fetching

namespace RecordTemplate.Render

open RecordTemplate.Template

/-! ## Values fetched -/

namespace Resolver

/-- All values fetched are what the data sources answer for the record. -/
def Fetched (r : Resolver) (record : RecordRef) (s : PassState) : Prop :=
  ∀ e ∈ s.cache, r.sourceValue e.source e.field record.id = .ok e.value

variable {r : Resolver} {source field : String} {record : RecordRef} {s t : PassState}

theorem Fetched.of_cache (h : r.Fetched record s) (hcache : t.cache = s.cache) :
    r.Fetched record t := by
  unfold Fetched
  rwa [hcache]

/-- The answer that is new is one that the data source has just given. -/
theorem keeps_resolveTag (tag : Tag) (record : RecordRef) (row : Option Row) :
    Keeps (r.Fetched record) (r.resolveTag tag record row) := by
  intro s hs
  cases r.extends_resolveTag tag record row s with
  | same lookups => exact hs.of_cache lookups.cache
  | missed notFetched cache calls =>
    unfold Fetched
    rw [cache]
    intro e he
    rcases List.mem_append.1 he with he | he
    · exact hs e he
    · obtain ⟨v, hv, rfl⟩ := mem_gains.1 he
      exact hv

theorem Fetched.repeats (h : r.Fetched record s) : r.Repeats source field record s := by
  intro v hv
  obtain ⟨e, he, rfl, -, rfl, rfl⟩ := exists_of_cached hv
  exact h e he

end Resolver

/-! ## Terms kept -/

namespace Pass

variable (p : Pass)

/-- The name under which the terms behind a tag are kept. -/
def keyOf (tag : Tag) : String := p.resolver.termsKey tag.source tag.field

/-- The terms that rendering a tag keeps. -/
def keptTerms? (tag : Tag) : Option (List Value) :=
  if p.resolver.AsksLabel tag then none
  else Resolver.keptTerms? (p.resolver.answer {} tag.source tag.field ⟨p.recordId, 0⟩ p.row)

/-- The terms when those of one more tag have been kept. -/
def keepTerms (terms : Entries) (tag : Tag) : Entries :=
  (p.keptTerms? tag).elim terms fun kept => Named.set terms (p.keyOf tag) (.list kept)

/-- The terms after tags have been rendered. -/
def termsAfter (tags : List Tag) : Entries := tags.foldl p.keepTerms []

/-- The terms that tags have kept last under a name. -/
def lastKept? (tags : List Tag) (key : String) : Option (List Value) :=
  tags.reverse.findSome? fun tag => if p.keyOf tag = key then p.keptTerms? tag else none

/-- The terms of other tags that the filters of a tag find: those kept last under its name,
    unless it keeps terms itself. -/
def foreignTerms? (before : List Tag) (tag : Tag) : Option (List Value) :=
  if (p.keptTerms? tag).isSome then none else p.lastKept? before (p.keyOf tag)

theorem termsAfter_concat (tags : List Tag) (tag : Tag) :
    p.termsAfter (tags ++ [tag]) = p.keepTerms (p.termsAfter tags) tag := by
  simp [termsAfter]

theorem lastKept?_concat (tags : List Tag) (tag : Tag) (key : String) :
    p.lastKept? (tags ++ [tag]) key =
      (if p.keyOf tag = key then p.keptTerms? tag else none).or (p.lastKept? tags key) := by
  rw [lastKept?, List.reverse_concat, List.findSome?_cons]
  split <;> simp_all [lastKept?]

theorem value?_termsAfter (tags : List Tag) (key : String) :
    Entries.value? (p.termsAfter tags) key = (p.lastKept? tags key).map .list := by
  -- the tag rendered last comes first, so the induction goes from the end
  induction tags using List.reverseRecOn with
  | nil => rfl
  | append_singleton tags tag ih =>
    rw [termsAfter_concat, lastKept?_concat, keepTerms]
    cases p.keptTerms? tag with
    | none => simp [ih]
    | some kept =>
      rw [Option.elim_some, Entries.value?_set, ih]
      by_cases hkey : p.keyOf tag = key
      · simp [hkey]
      · simp [hkey, Ne.symm hkey]

/-- What the filters of a tag find among the terms. -/
theorem value_termsAfter (before : List Tag) (tag : Tag) :
    Entries.value (p.termsAfter (before ++ [tag])) (p.keyOf tag) =
      ((p.keptTerms? tag).or (p.foreignTerms? before tag)).elim .null .list := by
  rw [Entries.value, value?_termsAfter, lastKept?_concat, if_pos rfl, foreignTerms?]
  cases p.keptTerms? tag with
  | none => cases p.lastKept? before (p.keyOf tag) <;> rfl
  | some kept => rfl

/-! ## The text of a tag -/

/-- The value of a tag in a new pass. -/
def resolvedAlone (tag : Tag) : Except Failure Resolved :=
  (outcome (p.resolver.resolveTag tag ⟨p.recordId, 0⟩ p.row) {}).1

/-- The text of a tag whose filters find these terms. -/
def textAmid (terms : Value) (tag : Tag) : Except Failure (List Char) :=
  match p.resolvedAlone tag with
  | .ok resolved =>
    let context := p.filterContext tag [(p.keyOf tag, terms)]
    .ok (p.filters.applyChain context resolved.raw tag.filters).1.render.toList
  | .error (.source _ _) => .ok []
  | .error e => .error e

/-- The text of a tag after others have been rendered. -/
def textAfter (before : List Tag) (tag : Tag) : Except Failure (List Char) :=
  p.textAmid (Entries.value (p.termsAfter (before ++ [tag])) (p.keyOf tag)) tag

variable {p} {s : PassState} {tag : Tag}

/-- Built-in filters find no more than the terms of their tag. -/
theorem applyChain_filterContext (hbuiltin : p.filters.IsBuiltin) (terms : Entries) (v : Value) :
    p.filters.applyChain (p.filterContext tag terms) v tag.filters =
      p.filters.applyChain
        (p.filterContext tag [(p.keyOf tag, Entries.value terms (p.keyOf tag))]) v tag.filters := by
  refine Registry.applyChain_of_currentTerms hbuiltin ?_ ?_ ?_ v
  · rfl
  · rfl
  · show Entries.value terms (p.keyOf tag) = Entries.value [(p.keyOf tag, _)] (p.keyOf tag)
    simp [Entries.value, Entries.value?, List.lookup]

theorem keptTerms?_of_fails (h : Fails (p.resolvedAlone tag)) : p.keptTerms? tag = none := by
  unfold keptTerms?
  split
  · rfl
  · next hl =>
    rw [resolvedAlone, (Resolver.outcome_resolveTag hl {}).1] at h
    exact Resolver.keptTerms?_of_fails h

theorem terms_resolveTag (h : p.resolver.Fetched ⟨p.recordId, 0⟩ s) (tag : Tag) :
    (outcome (p.resolver.resolveTag tag ⟨p.recordId, 0⟩ p.row) s).2.terms =
      p.keepTerms s.terms tag := by
  unfold keepTerms keptTerms?
  split
  · next hl => exact (Resolver.detached_resolveTag hl).terms s
  · next hl =>
    rw [(Resolver.outcome_resolveTag hl s).2, Resolver.answer_of_repeats h.repeats]
    rfl

/-- Amid values that have been fetched, a tag depends on the terms only. -/
theorem tagText_of_fetched (hbuiltin : p.filters.IsBuiltin)
    (h : p.resolver.Fetched ⟨p.recordId, 0⟩ s) (tag : Tag) :
    (outcome (p.tagText tag) s).1 =
        p.textAmid (Entries.value (p.keepTerms s.terms tag) (p.keyOf tag)) tag ∧
      (outcome (p.tagText tag) s).2.terms = p.keepTerms s.terms tag ∧
      p.resolver.Fetched ⟨p.recordId, 0⟩ (outcome (p.tagText tag) s).2 := by
  have hvalue : (outcome (p.resolver.resolveTag tag ⟨p.recordId, 0⟩ p.row) s).1 =
      p.resolvedAlone tag := Resolver.resolveTag_of_repeats h.repeats
  have hterms := terms_resolveTag h tag
  have hfetched := Resolver.keeps_resolveTag tag ⟨p.recordId, 0⟩ p.row s h
  rw [tagText, outcome_bind, outcome_resolveOrFail]
  rcases hres : outcome (p.resolver.resolveTag tag ⟨p.recordId, 0⟩ p.row) s with ⟨e | resolved, t⟩
    <;> rw [hres] at hvalue hterms hfetched <;> unfold textAmid <;> rw [← hvalue]
  · cases e <;> exact ⟨rfl, hterms, hfetched⟩
  · simp only [outcome_showResolved, ← hterms, applyChain_filterContext hbuiltin t.terms]
    exact ⟨trivial, trivial, hfetched⟩

theorem renderTag_of_fetched (hbuiltin : p.filters.IsBuiltin)
    (h : p.resolver.Fetched ⟨p.recordId, 0⟩ s) (tag : Tag) :
    (outcome (p.renderTag tag) s).1 =
        p.textAmid (Entries.value (p.keepTerms s.terms tag) (p.keyOf tag)) tag ∧
      (outcome (p.renderTag tag) s).2.terms = p.keepTerms s.terms tag ∧
      p.resolver.Fetched ⟨p.recordId, 0⟩ (outcome (p.renderTag tag) s).2 := by
  have hfound : p.resolver.Fetched ⟨p.recordId, 0⟩ { s with events := s.events ++ [.tagFound] } :=
    h.of_cache rfl
  have htext := tagText_of_fetched hbuiltin hfound tag
  rw [outcome_renderTag]
  rcases hout : outcome (p.tagText tag) { s with events := s.events ++ [.tagFound] } with
    ⟨e | text, t⟩ <;> rw [hout] at htext
  · exact htext
  · exact ⟨htext.1, htext.2.1, htext.2.2.of_cache rfl⟩

/-- A tag alone in a new pass. -/
theorem renderTag_alone (hbuiltin : p.filters.IsBuiltin) (tag : Tag) :
    (outcome (p.renderTag tag) {}).1 = p.textAfter [] tag :=
  (renderTag_of_fetched hbuiltin (fun _ he => by cases he) tag).1

/-! ## A whole pass -/

/-- How a state came about: the values fetched are those of the data sources, the terms are
    those of the tags rendered, and each of these has the text that follows from the ones
    before it. -/
structure Traced (p : Pass) (s : PassState) : Prop where
  fetched : p.resolver.Fetched ⟨p.recordId, 0⟩ s
  terms : s.terms = p.termsAfter ((renderedIn s.events).map Prod.fst)
  texts : ∀ before tag text after, renderedIn s.events = before ++ (tag, text) :: after →
    p.textAfter (before.map Prod.fst) tag = .ok text

theorem traced_empty : p.Traced {} where
  fetched _ h := by cases h
  terms := rfl
  texts before tag text after h := by
    have hlength := congrArg List.length h
    simp [renderedIn] at hlength

theorem keeps_notice {e : Event} (h : e.isOfTemplate = true) : Keeps p.Traced (notice e) := by
  intro s hs
  have hrendered : renderedIn (s.events ++ [e]) = renderedIn s.events := by
    rw [renderedIn_append]
    simp [renderedIn, Event.rendered?_of_isOfTemplate h]
  refine ⟨hs.fetched.of_cache rfl, ?_, ?_⟩
  · show s.terms = p.termsAfter ((renderedIn (s.events ++ [e])).map Prod.fst)
    rw [hrendered, hs.terms]
  · show ∀ before tag text after, renderedIn (s.events ++ [e]) = _ → _
    rw [hrendered]
    exact hs.texts

/-- A tag that fails leaves the terms as they were. -/
theorem keepTerms_of_error {terms : Value} {e : Failure} (h : p.textAmid terms tag = .error e)
    (kept : Entries) : p.keepTerms kept tag = kept := by
  have hfails : Fails (p.resolvedAlone tag) := by
    unfold textAmid at h
    cases hres : p.resolvedAlone tag with
    | ok resolved =>
      rw [hres] at h
      cases h
    | error f => exact fails_error
  rw [keepTerms, keptTerms?_of_fails hfails]
  rfl

/-- One more tag: its text follows from the terms kept so far. -/
theorem keeps_renderTag (hbuiltin : p.filters.IsBuiltin) (tag : Tag) :
    Keeps p.Traced (p.renderTag tag) := by
  intro s hs
  obtain ⟨htext, hterms, hfetched⟩ := renderTag_of_fetched hbuiltin hs.fetched tag
  rcases hout : outcome (p.renderTag tag) s with ⟨e | text, t⟩ <;>
    rw [hout] at htext hterms hfetched
  · -- nothing has been rendered and nothing kept
    have hrendered := p.renderedIn_renderTag_error hout
    refine ⟨hfetched, ?_, ?_⟩
    · rw [hrendered, ← hs.terms, hterms, keepTerms_of_error htext.symm]
    · rw [hrendered]
      exact hs.texts
  · have hrendered := p.renderedIn_renderTag hout
    have hkept : t.terms = p.termsAfter ((renderedIn s.events).map Prod.fst ++ [tag]) := by
      rw [termsAfter_concat, ← hs.terms, hterms]
    refine ⟨hfetched, ?_, ?_⟩
    · rw [hrendered, hkept, List.map_append]
      rfl
    · intro before other shown after hsplit
      rw [hrendered] at hsplit
      -- the tag of the split is the last one, or one of those before it
      rcases after.eq_nil_or_concat with rfl | ⟨after, last, rfl⟩
      · obtain ⟨rfl, hlast⟩ := List.append_inj' hsplit rfl
        cases hlast
        rw [textAfter, termsAfter_concat, ← hs.terms]
        exact htext.symm
      · rw [List.concat_eq_append, ← List.cons_append, ← List.append_assoc] at hsplit
        exact hs.texts before other shown after (List.append_inj' hsplit rfl).1

theorem keeps_render (hbuiltin : p.filters.IsBuiltin) (text : List Char) :
    Keeps p.Traced (p.render text) := by
  have hseq := Keeps.sequential (ε := Failure) (I := p.Traced)
  refine hseq.renderTemplate (fun c => ?_) (keeps_renderTag hbuiltin)
    (fun _ he => keeps_notice (Event.isOfTemplate_of_isOfStructure he)) _ _
  refine hseq.bind (keeps_notice rfl) fun _ => ?_
  exact hseq.evaluate (hseq.substituteTags (keeps_renderTag hbuiltin)) (fun _ => keeps_notice) c

/-- The terms do not matter to a tag without the filter for term links. -/
theorem textAmid_of_not_readsTerms (hbuiltin : p.filters.IsBuiltin)
    (h : ¬ p.filters.ReadsTerms tag.filters) (terms terms' : Value) :
    p.textAmid terms tag = p.textAmid terms' tag := by
  have hchain (v : Value) :
      p.filters.applyChain (p.filterContext tag [(p.keyOf tag, terms)]) v tag.filters =
        p.filters.applyChain (p.filterContext tag [(p.keyOf tag, terms')]) v tag.filters := by
    refine Registry.applyChain_of_not_readsTerms hbuiltin ?_ ?_ h v
    · rfl
    · rfl
  unfold textAmid
  cases p.resolvedAlone tag with
  | ok resolved => simp only [hchain]
  | error e => cases e <;> rfl

end Pass

/-- Exactly when a tag that a pass renders has the text that it has alone in a new pass: if its
    filters make the same of the terms that other tags have left under its name, if there are
    any, as of no terms.  So it always has this text without the filter for term links, if it
    keeps terms itself, or if no earlier tag has kept terms under its name. -/
theorem render_alone_iff {p : Pass} (hbuiltin : p.filters.IsBuiltin) (text : List Char)
    {before after : Rendered} {tag : Tag} {shown : List Char}
    (h : renderedIn (outcome (p.render text) {}).2.events = before ++ (tag, shown) :: after) :
    ((outcome (p.renderTag tag) {}).1 = .ok shown ↔
      ∀ terms, p.foreignTerms? (before.map Prod.fst) tag = some terms →
        p.textAmid (.list terms) tag = p.textAmid .null tag) ∧
    (¬ p.filters.ReadsTerms tag.filters → (outcome (p.renderTag tag) {}).1 = .ok shown) := by
  have htext := (Pass.keeps_render hbuiltin text {} Pass.traced_empty).texts _ _ _ _ h
  rw [Pass.textAfter, Pass.value_termsAfter] at htext
  rw [Pass.renderTag_alone hbuiltin, Pass.textAfter, Pass.value_termsAfter]
  have halone : p.foreignTerms? [] tag = none := by
    unfold Pass.foreignTerms? Pass.lastKept?
    split <;> rfl
  rw [halone, ← htext]
  refine ⟨?_, fun hreads => Pass.textAmid_of_not_readsTerms hbuiltin hreads _ _⟩
  -- without terms of others the tag finds the same in both passes
  cases hforeign : p.foreignTerms? (before.map Prod.fst) tag with
  | none => simp
  | some terms =>
    have hnone : p.keptTerms? tag = none := by
      unfold Pass.foreignTerms? at hforeign
      split at hforeign
      · cases hforeign
      · next hkept => simpa using hkept
    simp [hnone, eq_comm]

/-! ## Tags of two sources -/

def newsTerm : Value := .term { name := "News", link := "/news" }

def newsLink : List Char := "<a href=\"/news\">News</a>".toList

/-- A pass over a source with a list of terms and one with a plain text. -/
def mixedPass : Pass :=
  .ofSources [sourceOf "custom" (.list [newsTerm]), sourceOf "native" (.text "plain")] .builtin

/-- `%custom:tags%` -/
def termTag : Tag := ⟨"custom", ["tags"], [], "%custom:tags%".toList, 0⟩

/-- `%native:tags|term_links%` -/
def linkTag : Tag :=
  ⟨"native", ["tags"], [⟨"term_links", []⟩], "%native:tags|term_links%".toList, 0⟩

def mixedTags : List Char := "%custom:tags% %native:tags|term_links%".toList

/-- The second tag shows the terms of the first one, since both fields have the same name. -/
theorem rendered_mixedPass : renderedIn (outcome (mixedPass.render mixedTags) {}).2.events =
    [(termTag, "News".toList), (linkTag, newsLink)] := by
  cbv

/-- Alone it shows its own value. -/
theorem renderTag_linkTag :
    (outcome (mixedPass.renderTag linkTag) {}).1 = .ok "plain".toList := by
  cbv

/-- The first tag has the text that it has alone; for the second one the terms matter. -/
theorem render_alone_iff_mixed :
    mixedPass.filters.IsBuiltin ∧
      (outcome (mixedPass.renderTag termTag) {}).1 = .ok "News".toList ∧
      mixedPass.textAmid (.list [newsTerm]) linkTag ≠ mixedPass.textAmid .null linkTag := by
  have hbuiltin : mixedPass.filters.IsBuiltin := Registry.isBuiltin_builtin
  have hfirst : renderedIn (outcome (mixedPass.render mixedTags) {}).2.events =
      [] ++ (termTag, "News".toList) :: [(linkTag, newsLink)] := rendered_mixedPass
  have hsecond : renderedIn (outcome (mixedPass.render mixedTags) {}).2.events =
      [(termTag, "News".toList)] ++ (linkTag, newsLink) :: [] := rendered_mixedPass
  have hreads : ¬ mixedPass.filters.ReadsTerms termTag.filters := fun ⟨_, hi, _⟩ => by cases hi
  refine ⟨hbuiltin, (render_alone_iff hbuiltin _ hfirst).2 hreads, fun hsame => ?_⟩
  have halone := (render_alone_iff hbuiltin _ hsecond).1.2 fun terms hterms => by
    have hforeign : mixedPass.foreignTerms? [termTag] linkTag = some [newsTerm] := by cbv
    cases hforeign.symm.trans hterms
    exact hsame
  rw [renderTag_linkTag] at halone
  exact absurd (Except.ok.inj halone) (by decide)

/-- With built-in filters only, a tag need not have the text that it has alone. -/
theorem not_forall_alone :
    ¬ ∀ p : Pass, p.filters.IsBuiltin → ∀ text before tag shown after,
      renderedIn (outcome (p.render text) {}).2.events = before ++ (tag, shown) :: after →
        (outcome (p.renderTag tag) {}).1 = .ok shown := by
  intro h
  have hlink := h mixedPass Registry.isBuiltin_builtin _ [_] _ _ [] rendered_mixedPass
  rw [renderTag_linkTag] at hlink
  exact absurd (Except.ok.inj hlink) (by decide)

end RecordTemplate.Render
