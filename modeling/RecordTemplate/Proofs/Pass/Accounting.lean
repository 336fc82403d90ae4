/-
  RecordTemplate.Proofs.Pass.Accounting

  Counters and diagnostics are read off the same events, so they can be compared: every tag that
  is found is resolved, is unresolved or fails at its data source, and every filter of a tag that
  does not fail is applied or unknown (`Balanced`).

  A single event may leave the books open.  They are closed again after each tag and after each
  branch that is tested, so they balance after every pass that comes to an output, whatever its
  data sources and filters do on the way (`Pass.render_balanced`).
-/

import RecordTemplate.Proofs.Pass.Books
import RecordTemplate.Proofs.Pass.Completion

namespace RecordTemplate

open RecordTemplate.Template

/-! ## Filters of a chain -/

namespace Registry

/-- A filter is unknown, or it is known and then succeeds or fails. -/
theorem step_cases (r : Registry) (context : FilterContext) (v : Value) (i : Invocation) :
    (r.step context v i = .error (.unknown i.name) ∧ r.has i.name = false) ∨
      r.has i.name = true ∧ ((∃ w, r.step context v i = .ok w) ∨
        ∃ message, r.step context v i = .error (.failed i.name message)) := by
  rw [has_eq_isSome_get?]
  unfold step
  cases r.get? i.name with
  | none => exact Or.inl ⟨rfl, rfl⟩
  | some f =>
    refine Or.inr ⟨rfl, ?_⟩
    cases hf : f.apply context v i.args with
    | ok w => exact Or.inl ⟨w, by simp only [hf]⟩
    | error e => exact Or.inr ⟨e.message, by simp only [hf]⟩

/-- Every filter of a chain is unknown or counted as known, and only known ones fail. -/
theorem count_applyChain (r : Registry) (context : FilterContext) (v : Value)
    (is : List Invocation) :
    (r.applyChain context v is).2.countP (·.isUnknown) + r.knownCount is = is.length ∧
      (r.applyChain context v is).2.countP (!·.isUnknown) ≤ r.knownCount is := by
  induction is generalizing v with
  | nil => exact ⟨rfl, Nat.le_refl 0⟩
  | cons i is ih =>
    rw [applyChain]
    rcases r.step_cases context v i with ⟨hstep, hhas⟩ | ⟨hhas, ⟨w, hstep⟩ | ⟨message, hstep⟩⟩
    · have hcount : r.knownCount (i :: is) = r.knownCount is := by
        simp [knownCount, hhas]
      obtain ⟨hall, hfailed⟩ := ih v
      simp only [hstep, hcount, List.countP_cons, ChainFault.isUnknown_unknown, Bool.not_true,
        Bool.false_eq_true, if_true, if_false, List.length_cons]
      omega
    · have hcount : r.knownCount (i :: is) = r.knownCount is + 1 := by
        simp [knownCount, hhas]
      obtain ⟨hall, hfailed⟩ := ih w
      simp only [hstep, hcount, List.length_cons]
      omega
    · have hcount : r.knownCount (i :: is) = r.knownCount is + 1 := by
        simp [knownCount, hhas]
      obtain ⟨hall, hfailed⟩ := ih v
      simp only [hstep, hcount, List.countP_cons, ChainFault.isUnknown_failed, Bool.not_false,
        Bool.false_eq_true, if_true, if_false, List.length_cons]
      omega

end Registry

end RecordTemplate

namespace RecordTemplate.Render

open RecordTemplate.Template

/-! ## The books of one tag -/

/-- What is noticed about a tag, its lookups done, settles it. -/
structure Settles (tag : Tag) (es : List Event) : Prop where
  ofTag : ∀ e ∈ es, e.isOfTag = true
  found : (Stats.ofEvents es).tagsFound = 0
  tags : (Stats.ofEvents es).tagsResolved + diagnosed "unresolved_field" es +
    diagnosed "source_error" es = 1
  ending : ∃ ending, es.filterMap Event.ending? = [ending] ∧
    (Stats.ofEvents es).filtersApplied + diagnosed "unknown_filter" es =
      if ending = .failed then 0 else tag.filters.length
  failures : diagnosed "filter_failed" es ≤ (Stats.ofEvents es).filtersApplied

theorem settles_sourceFailed (tag : Tag) (message : String) :
    Settles tag [.sourceFailed tag.text message] where
  ofTag e he := by
    rw [List.mem_singleton.1 he]
    rfl
  found := rfl
  tags := rfl
  ending := ⟨.failed, rfl, rfl⟩
  failures := Nat.le_refl 0

/-- The skipped filters by the codes of their diagnostics. -/
theorem diagnosed_filterSkipped (code : String) (faults : List ChainFault) :
    diagnosed code (faults.map .filterSkipped) =
      faults.countP fun fault => fault.diagnostic.code == code := by
  rw [diagnosed, List.filterMap_map]
  have hsome : Event.diagnostic? ∘ Event.filterSkipped = fun fault => some fault.diagnostic := rfl
  rw [hsome, List.filterMap_eq_map', List.countP_map]
  rfl

/-! ### Filters -/

/-- What is noticed about a chain in which filters were skipped and others are known. -/
def chainEvents (faults : List ChainFault) (known : Nat) : List Event :=
  faults.map .filterSkipped ++ [.chainApplied known]

section Chain

variable (faults : List ChainFault) (known : Nat)

theorem diagnosed_chainEvents (code : String) :
    diagnosed code (chainEvents faults known) =
      faults.countP fun fault => fault.diagnostic.code == code := by
  rw [chainEvents, diagnosed_append, diagnosed_filterSkipped]
  rfl

theorem diagnosed_unknown :
    diagnosed "unknown_filter" (chainEvents faults known) = faults.countP (·.isUnknown) := by
  rw [diagnosed_chainEvents]
  refine List.countP_congr fun fault _ => ?_
  cases fault <;> simp [ChainFault.code_diagnostic]

theorem diagnosed_failed :
    diagnosed "filter_failed" (chainEvents faults known) = faults.countP (!·.isUnknown) := by
  rw [diagnosed_chainEvents]
  refine List.countP_congr fun fault _ => ?_
  cases fault <;> simp [ChainFault.code_diagnostic]

/-- A chain tells nothing about the lookup of its tag. -/
theorem diagnosed_other {code : String} (hunknown : code ≠ "unknown_filter")
    (hfailed : code ≠ "filter_failed") : diagnosed code (chainEvents faults known) = 0 := by
  rw [diagnosed_chainEvents, List.countP_eq_zero]
  intro fault _
  cases fault <;> simp [ChainFault.code_diagnostic, Ne.symm hunknown, Ne.symm hfailed]

theorem ofEvents_chainEvents :
    Stats.ofEvents (chainEvents faults known) = { filtersApplied := known } := by
  have hfaults : Stats.ofEvents (faults.map .filterSkipped) = {} := by
    refine Stats.ofEvents_eq_empty fun e he => ?_
    obtain ⟨fault, -, rfl⟩ := List.mem_map.1 he
    rfl
  rw [chainEvents, Stats.ofEvents_append, hfaults, Stats.empty_add]
  show { filtersApplied := 0 + known } = ({ filtersApplied := known } : Stats)
  rw [Nat.zero_add]

theorem endings_chainEvents : (chainEvents faults known).filterMap Event.ending? = [] := by
  refine List.filterMap_eq_nil_iff.2 fun e he => ?_
  rcases List.mem_append.1 he with he | he
  · obtain ⟨fault, -, rfl⟩ := List.mem_map.1 he
    rfl
  · rw [List.mem_singleton.1 he]
    rfl

end Chain

/-- A chain in which every filter of the tag is unknown or known settles the tag, if what is
    noticed before it settles all but the filters. -/
theorem settles_chain {tag : Tag} {first : Event} {ending : Ending} {faults : List ChainFault}
    {known : Nat} (hall : faults.countP (·.isUnknown) + known = tag.filters.length)
    (hfailures : faults.countP (!·.isUnknown) ≤ known)
    (hfirst : Settles { tag with filters := [] } [first]) (hending : first.ending? = some ending)
    (hfound : ending ≠ .failed) : Settles tag (first :: chainEvents faults known) := by
  have hstats : Stats.ofEvents (first :: chainEvents faults known) =
      Stats.ofEvents [first] + { filtersApplied := known } := by
    rw [← List.singleton_append, Stats.ofEvents_append, ofEvents_chainEvents]
  have hunresolved : diagnosed "unresolved_field" (chainEvents faults known) = 0 :=
    diagnosed_other faults known (by decide) (by decide)
  have hsource : diagnosed "source_error" (chainEvents faults known) = 0 :=
    diagnosed_other faults known (by decide) (by decide)
  obtain ⟨ending', hone, hnone⟩ := hfirst.ending
  have hsame : ending' = ending := by
    rw [List.filterMap_cons_some hending] at hone
    exact (List.cons.inj hone).1.symm
  simp only [hsame, if_neg hfound, List.length_nil] at hnone
  constructor
  · intro e he
    rcases List.mem_cons.1 he with rfl | he
    · exact hfirst.ofTag e List.mem_cons_self
    · rcases List.mem_append.1 he with he | he
      · obtain ⟨fault, -, rfl⟩ := List.mem_map.1 he
        rfl
      · rw [List.mem_singleton.1 he]
        rfl
  · rw [hstats, Stats.tagsFound_add, hfirst.found]
    rfl
  · have := hfirst.tags
    rw [hstats, Stats.tagsResolved_add, diagnosed_cons "unresolved_field",
      diagnosed_cons "source_error", hunresolved, hsource]
    omega
  · refine ⟨ending, ?_, ?_⟩
    · rw [List.filterMap_cons_some hending, endings_chainEvents]
    · rw [hstats, Stats.filtersApplied_add, diagnosed_cons, diagnosed_unknown, if_neg hfound]
      show _ + known + _ = _
      omega
  · have := hfirst.failures
    rw [hstats, Stats.filtersApplied_add, diagnosed_cons, diagnosed_failed]
    show _ ≤ _ + known
    omega

/-- A value that has been found settles a tag without filters. -/
theorem settles_found (tag : Tag) (raw : Value) (hnone : tag.filters = []) :
    Settles tag [if raw.isNull then .tagUnresolved tag.text else .tagResolved] := by
  have hlength : tag.filters.length = 0 := by rw [hnone, List.length_nil]
  cases raw.isNull with
  | true => exact ⟨by simp [Event.isOfTag], rfl, rfl, ⟨_, rfl, hlength.symm⟩, Nat.le_refl 0⟩
  | false => exact ⟨by simp [Event.isOfTag], rfl, rfl, ⟨_, rfl, hlength.symm⟩, Nat.le_refl 0⟩

/-- A value that has been found and is shown settles its tag. -/
theorem Pass.settles_shownEvents (p : Pass) (tag : Tag) (resolved : Resolved) (terms : Entries) :
    Settles tag (p.shownEvents tag resolved terms) := by
  unfold shownEvents
  by_cases hnone : tag.filters = []
  · rw [if_pos hnone]
    exact settles_found tag resolved.raw hnone
  · have hfirst := settles_found { tag with filters := [] } resolved.raw rfl
    obtain ⟨hall, hfailures⟩ := p.filters.count_applyChain (p.filterContext tag terms) resolved.raw
      tag.filters
    rw [if_neg hnone]
    cases hnull : resolved.raw.isNull with
    | true =>
      rw [hnull] at hfirst
      exact settles_chain hall hfailures hfirst rfl (by decide)
    | false =>
      rw [hnull] at hfirst
      exact settles_chain hall hfailures hfirst rfl (by decide)

/-! ### The whole tag -/

theorem ofEvents_of_isLookup {es : List Event} (h : ∀ e ∈ es, e.isLookup = true) :
    Stats.ofEvents es = {} := by
  refine Stats.ofEvents_eq_empty fun e he => ?_
  have := h e he
  cases e <;> first | rfl | cases this

theorem diagnosed_of_isLookup (code : String) {es : List Event}
    (h : ∀ e ∈ es, e.isLookup = true) : diagnosed code es = 0 := by
  have hnone : es.filterMap Event.diagnostic? = [] :=
    List.filterMap_eq_nil_iff.2 fun e he => Event.diagnostic?_of_isLookup (h e he)
  rw [diagnosed, hnone, List.countP_nil]

theorem endings_of_isLookup {es : List Event} (h : ∀ e ∈ es, e.isLookup = true) :
    es.filterMap Event.ending? = [] := by
  refine List.filterMap_eq_nil_iff.2 fun e he => ?_
  have := h e he
  cases e <;> first | rfl | cases this

/-- The books balance over a tag that has been looked up and settled. -/
theorem balanced_tag {tag : Tag} {lookups notes : List Event}
    (hlookups : ∀ e ∈ lookups, e.isLookup = true) (hnotes : Settles tag notes)
    (text : List Char) :
    Balanced (.tagFound :: (lookups ++ notes) ++ [.tagRendered tag text]) := by
  obtain ⟨ending, hending, hfilters⟩ := hnotes.ending
  have hrendered : ∀ e ∈ .tagFound :: (lookups ++ notes), e.rendered? = none := by
    intro e he
    rcases List.mem_cons.1 he with rfl | he
    · rfl
    · rcases List.mem_append.1 he with he | he
      · exact Event.rendered?_of_isOfTag (Event.isOfTag_of_isLookup (hlookups e he))
      · exact Event.rendered?_of_isOfTag (hnotes.ofTag e he)
  have hlog : TagLog.ofEvents (.tagFound :: (lookups ++ notes) ++ [.tagRendered tag text]) =
      ⟨[(tag, [ending])], []⟩ := by
    rw [TagLog.ofEvents_concat hrendered, List.filterMap_cons_none rfl, List.filterMap_append,
      endings_of_isLookup hlookups, hending, List.nil_append]
  -- of the counters and the diagnostics only those of the notes are left, and the tag itself
  have hstats : Stats.ofEvents (.tagFound :: (lookups ++ notes) ++ [.tagRendered tag text]) =
      { tagsFound := 1 } + Stats.ofEvents notes := by
    rw [Stats.ofEvents_append, Stats.ofEvents_cons, Stats.ofEvents_append,
      ofEvents_of_isLookup hlookups, Stats.empty_add]
    rfl
  have hcode (code : String) :
      diagnosed code (.tagFound :: (lookups ++ notes) ++ [.tagRendered tag text]) =
        diagnosed code notes := by
    rw [diagnosed_append, diagnosed_cons, diagnosed_append, diagnosed_of_isLookup code hlookups]
    exact Nat.zero_add _ |>.trans (Nat.zero_add _)
  constructor
  · rw [hlog]
  · intro t ht
    rw [hlog] at ht
    exact ⟨ending, by rw [List.mem_singleton.1 ht]⟩
  · rw [hlog, hstats, Stats.tagsFound_add, hnotes.found]
    rfl
  · have := hnotes.tags
    rw [hstats, hcode, hcode, Stats.tagsFound_add, Stats.tagsResolved_add, hnotes.found]
    show 1 + 0 = 0 + _ + _ + _
    omega
  · rw [hlog, hstats, hcode, Stats.filtersApplied_add]
    show 0 + _ + _ = _
    rw [Nat.zero_add, hfilters]
    by_cases hfailed : ending = .failed
    · simp [TagLog.invocations, hfailed]
    · simp [TagLog.invocations, hfailed, Ne.symm hfailed]
  · have := hnotes.failures
    rw [hstats, hcode, Stats.filtersApplied_add]
    show _ ≤ 0 + _
    omega
  · have hnone : diagnosed "malformed_condition" notes = 0 :=
      diagnosed_eq_zero fun e he d hd => Event.code_ne_of_isOfTag (hnotes.ofTag e he) hd
    rw [hcode, hnone]
    exact Nat.zero_le _

/-- The text of a tag is found by lookups, and then the tag is settled. -/
theorem Pass.events_tagText (p : Pass) {tag : Tag} {s t : PassState} {text : List Char}
    (h : outcome (p.tagText tag) s = (.ok text, t)) :
    ∃ lookups notes, t.events = s.events ++ (lookups ++ notes) ∧
      (∀ e ∈ lookups, e.isLookup = true) ∧ Settles tag notes := by
  obtain ⟨lookups, hlookups, hkind⟩ := p.appends_resolveOrFail tag s
  rw [tagText, outcome_bind] at h
  rcases hres : outcome (p.resolveOrFail tag) s with ⟨e | message | resolved, u⟩ <;>
    rw [hres] at h hlookups
  · cases h
  · cases h
    refine ⟨lookups, _, ?_, hkind, settles_sourceFailed tag message⟩
    rw [← List.append_assoc, ← hlookups]
  · dsimp only at h
    rw [outcome_showResolved] at h
    cases h
    refine ⟨lookups, _, ?_, hkind, p.settles_shownEvents tag resolved u.terms⟩
    rw [← List.append_assoc, ← hlookups]

/-! ## The books of a pass -/

/-- A step over which the books balance if it comes to an answer. -/
def Accounts {α : Type} (x : PassM α) : Prop :=
  ∀ s a t, outcome x s = (.ok a, t) → ∃ es, t.events = s.events ++ es ∧ Balanced es

namespace Accounts

theorem sequential : Sequential (m := PassM) fun _ => Accounts where
  pure a s b t h := by
    cases h
    exact ⟨[], (List.append_nil _).symm, .nil⟩
  bind {_ _ x f} hx hf s b u h := by
    rw [outcome_bind] at h
    rcases hs : outcome x s with ⟨e | a, t⟩ <;> rw [hs] at h
    · cases h
    · obtain ⟨es, hes, hbalanced⟩ := hx s a t hs
      obtain ⟨es', hes', hbalanced'⟩ := hf a t b u h
      exact ⟨es ++ es', by rw [hes', hes, List.append_assoc], hbalanced.append hbalanced'⟩

theorem notice {e : Event} (h : Balanced [e]) : Accounts (notice e) := by
  intro s a t hout
  cases hout
  exact ⟨[e], rfl, h⟩

theorem get : Accounts (get : PassM PassState) := by
  intro s a t h
  cases h
  exact ⟨[], (List.append_nil _).symm, .nil⟩

end Accounts

/-- Events about the template count no tags and no filters. -/
theorem Stats.ofEvents_of_isOfTemplate {es : List Event} (h : ∀ e ∈ es, e.isOfTemplate = true) :
    (ofEvents es).tagsFound = 0 ∧ (ofEvents es).tagsResolved = 0 ∧
      (ofEvents es).filtersApplied = 0 := by
  induction es with
  | nil => exact ⟨rfl, rfl, rfl⟩
  | cons e es ih =>
    obtain ⟨hfound, hresolved, happlied⟩ := ih fun e' he' => h e' (List.mem_cons_of_mem _ he')
    have hof := h e List.mem_cons_self
    rw [ofEvents_cons, tagsFound_add, tagsResolved_add, filtersApplied_add, hfound, hresolved,
      happlied]
    cases e with
    | fallbackTried isEmpty => cases isEmpty <;> exact ⟨rfl, rfl, rfl⟩
    | _ => first | exact ⟨rfl, rfl, rfl⟩ | cases hof

/-- Events about the template leave the books balanced if every malformed condition is counted. -/
theorem balanced_of_isOfTemplate {es : List Event} (h : ∀ e ∈ es, e.isOfTemplate = true)
    (hcounted : diagnosed "malformed_condition" es ≤ (Stats.ofEvents es).conditionalsEvaluated) :
    Balanced es := by
  have hcode {code : String}
      (hother : code ∉ ["malformed_condition", "iteration_limit", "unbalanced_block"]) :
      diagnosed code es = 0 := by
    refine diagnosed_eq_zero fun e he d hd hsame => hother ?_
    rw [← hsame]
    exact Event.code_mem_of_isOfTemplate (h e he) hd
  have hlog : TagLog.ofEvents es = ⟨[], []⟩ := by
    have hnone : es.filterMap Event.ending? = [] :=
      List.filterMap_eq_nil_iff.2 fun e he => by
        have := h e he
        cases e <;> first | rfl | cases this
    rw [TagLog.ofEvents_of_not_rendered fun e he => Event.rendered?_of_isOfTemplate (h e he), hnone]
  obtain ⟨hfound, hresolved, happlied⟩ := Stats.ofEvents_of_isOfTemplate h
  constructor
  · rw [hlog]
  · intro t ht
    rw [hlog] at ht
    exact absurd ht List.not_mem_nil
  · rw [hlog, hfound]
    rfl
  · rw [hfound, hresolved, hcode (by decide), hcode (by decide)]
  · rw [hlog, happlied, hcode (by decide)]
    rfl
  · rw [hcode (by decide)]
    exact Nat.zero_le _
  · exact hcounted

namespace Pass

variable (p : Pass)

/-- The books balance again after each tag. -/
theorem accounts_renderTag (tag : Tag) : Accounts (p.renderTag tag) := by
  intro s text t h
  rw [outcome_renderTag] at h
  rcases htext : outcome (p.tagText tag) { s with events := s.events ++ [.tagFound] } with
    ⟨e | text', u⟩ <;> rw [htext] at h
  · cases h
  · cases h
    obtain ⟨lookups, notes, hevents, hkind, hsettles⟩ := p.events_tagText htext
    refine ⟨_, ?_, balanced_tag hkind hsettles text⟩
    simp [hevents]

/-- A malformed condition is counted as a branch that was tested. -/
theorem accounts_test {renderTag : Tag → PassM (List Char)} (hr : ∀ tag, Accounts (renderTag tag))
    (ks : Keywords) (c : List Char) :
    Accounts (do
      notice (.branchTested c)
      Render.evaluate (substituteTags ks renderTag) notice c : PassM Bool) := by
  have hseq := Accounts.sequential
  have hnotice {e : Event} (h : e.isOfTemplate = true)
      (hcounted : diagnosed "malformed_condition" [e] ≤
        (Stats.ofEvents [e]).conditionalsEvaluated) : Accounts (notice e) :=
    .notice (balanced_of_isOfTemplate (fun e' he' => List.mem_singleton.1 he' ▸ h) hcounted)
  unfold Render.evaluate
  split
  · -- the two events balance only together
    intro s holds t h
    cases h
    refine ⟨[.branchTested c, .malformedCondition c], List.append_assoc _ _ _, ?_⟩
    exact balanced_of_isOfTemplate (by simp [Event.isOfTemplate]) (Nat.le_refl 1)
  · refine hseq.bind (hnotice rfl (Nat.zero_le _)) fun _ => ?_
    refine hseq.bind (hseq.substituteTags hr _) fun left => ?_
    exact hseq.bind (hnotice rfl (Nat.zero_le _)) fun _ => hseq.pure _

theorem accounts_renderAmid (host : PassState → Host) (text : List Char) :
    Accounts (p.renderAmid host text) := by
  have hseq := Accounts.sequential
  have htag (tag : Tag) :
      Accounts (do (p.hosted (host (← get))).renderTag tag : PassM (List Char)) :=
    hseq.bind .get fun s => (p.hosted (host s)).accounts_renderTag tag
  refine hseq.renderTemplate (accounts_test htag p.keywords) htag (fun e he => .notice ?_) _ _
  refine balanced_of_isOfTemplate (fun e' he' => ?_) ?_
  · rw [List.mem_singleton.1 he']
    exact Event.isOfTemplate_of_isOfStructure he
  · cases e <;> cases he <;> exact Nat.zero_le _

/-- The books of every pass that comes to an output balance: every tag that is found is resolved,
    is unresolved or fails at its data source; the filters applied and those that are unknown are
    the filters of the tags that did not fail; no more filters fail than are applied; and no more
    conditions are malformed than are tested.  This holds for any data sources, attachments and
    filters, even if they change on the way. -/
theorem render_balanced (text : List Char) :
    (∀ host out t, outcome (p.renderAmid host text) {} = (.ok out, t) → Balanced t.events) ∧
      ∀ out t, outcome (p.render text) {} = (.ok out, t) → Balanced t.events := by
  have hamid (host : PassState → Host) (out : List Char) (t : PassState)
      (h : outcome (p.renderAmid host text) {} = (.ok out, t)) : Balanced t.events := by
    obtain ⟨es, hes, hbalanced⟩ := p.accounts_renderAmid host text {} out t h
    rw [hes]
    exact hbalanced
  refine ⟨hamid, fun out t h => ?_⟩
  rw [← renderAmid_const] at h
  exact hamid _ out t h

/-- A pass with a field that has a value, one that has none and one that cannot be read, and with
    one filter that works and one that fails. -/
def troubled : Pass :=
  .ofSources
    [sourceOf "custom" (.text "ada"), sourceOf "native" .null, ("raising", Renderer.raisingSource)]
    (.ofFilters
      [{ name := "twice", apply := Filter.onText fun _ s => s ++ s },
        { name := "broken", apply := fun _ _ _ => .error (.host "broken") }])

/-- Tags of each kind with filters of each kind, a tag in a condition and a malformed one. -/
def troubledTemplate : List Char :=
  ("%custom:x|twice|none|broken%%native:x|none%%raising:x|twice%" ++
    "[if:%custom:x% == ada]%raising:x%[/if][if:x]y[/if]").toList

/-- The output of a pass with its counters and the codes of its diagnostics. -/
def booksOf (p : Pass) (text : List Char) : Option (List Char) × Stats × List String :=
  (fun o : Except Failure (List Char) × PassState =>
    (o.1.toOption, Stats.ofEvents o.2.events,
      (o.2.events.filterMap Event.diagnostic?).map Diagnostic.code)) (outcome (p.render text) {})

theorem render_balanced_troubled :
    ∃ t, outcome (troubled.render troubledTemplate) {} = (.ok "adaada".toList, t) ∧
      Balanced t.events ∧ Stats.ofEvents t.events = ⟨5, 2, 2, 0, 2⟩ ∧
      (t.events.filterMap Event.diagnostic?).map Diagnostic.code =
        ["malformed_condition", "unknown_filter", "filter_failed", "unresolved_field",
          "unknown_filter", "source_error", "source_error"] := by
  have hbooks : booksOf troubled troubledTemplate = (some "adaada".toList, ⟨5, 2, 2, 0, 2⟩,
      ["malformed_condition", "unknown_filter", "filter_failed", "unresolved_field",
        "unknown_filter", "source_error", "source_error"]) := by decide +kernel
  obtain ⟨out, t, hout⟩ := completes_render (p := troubled) ⟨rfl, fun _ h => by cases h⟩
    troubledTemplate {}
  rw [booksOf, hout] at hbooks
  obtain ⟨hvalue, hrest⟩ := Prod.mk.inj hbooks
  obtain ⟨hstats, hcodes⟩ := Prod.mk.inj hrest
  cases hvalue
  exact ⟨t, hout, (render_balanced troubled troubledTemplate).2 _ t hout, hstats, hcodes⟩

end Pass

end RecordTemplate.Render
