/-
  RecordTemplate.Proofs.Pass.Properties

  The text of a value behind a property and the text of the same value in a field of its own.

  A field shows its value by rules: a list of terms and a term show names, a library item what it
  holds, and a vector image the content of its file (`Pass.text_field`).  Behind a property none of
  these rules is applied, and the value shows as it renders (`Pass.text_path`), which is nothing if
  there is a rule for it (`Value.render_of_hasRule`).  So the two texts agree unless there is a rule
  for the value and it gives a text.
-/

import Mathlib
import RecordTemplate.Proofs.Pass.Lookup

namespace RecordTemplate

open RecordTemplate.Template

/-! ## Rules for values -/

/-- The text of a vector image: the content of its file, and nothing if there is no such file or
    it cannot be read. -/
def imageText (attachments : Option AttachmentStore) (image : Entries) : String :=
  match attachments with
  | none => ""
  | some store =>
    match store.file (Value.attachmentId image) with
    | .ok (some path) =>
      if path = "" then ""
      else match store.read path with
        | .ok (some content) => content
        | _ => ""
    | _ => ""

namespace Value

/-- The text of a single value: a term shows its name and a vector image its file. -/
def singleText (attachments : Option AttachmentStore) (v : Value) : String :=
  match v with
  | term t => t.name
  | mapping es => if v.isVectorImage then imageText attachments es else ""
  | v => v.render

/-- The text of the value of a field: a list of terms shows their names, and the wrapper of a
    library item what it holds. -/
def fieldText (attachments : Option AttachmentStore) (v : Value) : String :=
  if v.isTermList then
    listSeparator.intercalate (((v.sequence?.getD []).filterMap term?).map Term.name)
  else v.unwrapped.singleText attachments

/-- The wrapper of a library item that is there. -/
def isLibraryItem : Value → Bool
  | mapping es =>
    (Entries.value es "type").isText "media_library" && !(Entries.value es "value").isNull
  | _ => false

/-- There is a rule for the value: it does not show as it renders. -/
def HasRule (v : Value) : Prop :=
  v.isTermList = true ∨ v.isLibraryItem = true ∨ v.isVectorImage = true ∨ v.term?.isSome = true

instance (v : Value) : Decidable v.HasRule := inferInstanceAs (Decidable (_ ∨ _))

variable {v : Value}

theorem unwrapped_of_not_isLibraryItem (h : v.isLibraryItem = false) : v.unwrapped = v := by
  cases v with
  | mapping es =>
    refine if_neg fun hitem => ?_
    rw [isLibraryItem, hitem.1, hitem.2] at h
    cases h
  | _ => rfl

/-- A mapping with one entry is never the wrapper of a library item. -/
theorem unwrapped_singleton (name : String) (v : Value) :
    (mapping [(name, v)]).unwrapped = mapping [(name, v)] := by
  refine unwrapped_of_not_isLibraryItem ?_
  have hlookup (other : String) (h : other ≠ name) : Entries.value [(name, v)] other = .null := by
    rw [Entries.value, Entries.value?, List.lookup_cons, beq_eq_false_iff_ne.2 h]
    rfl
  -- of the two entries of a wrapper one is missing
  by_cases htype : "type" = name
  · have hvalue : "value" ≠ name := htype ▸ by decide
    simp [isLibraryItem, hlookup "value" hvalue, isNull]
  · simp [isLibraryItem, hlookup "type" htype, isText]

/-- A list of terms has no text of its own. -/
theorem render_of_isTermList (h : v.isTermList = true) : v.render = "" := by
  unfold isTermList at h
  split at h
  · next t vs hsequence =>
    cases v with
    | list ws | tuple ws =>
      cases hsequence
      rfl
    | _ => cases hsequence
  · cases h

/-- What there is a rule for renders as nothing. -/
theorem render_of_hasRule (h : v.HasRule) : v.render = "" := by
  obtain hlist | hitem | himage | hterm := h
  · exact render_of_isTermList hlist
  · cases v with
    | mapping es => rfl
    | _ => cases hitem
  · cases v with
    | mapping es => rfl
    | _ => cases himage
  · cases v with
    | term t => rfl
    | _ => cases hterm

/-- What there is no rule for shows as it renders. -/
theorem fieldText_of_not_hasRule (attachments : Option AttachmentStore) (h : ¬ v.HasRule) :
    v.fieldText attachments = v.render := by
  simp only [HasRule, not_or, Bool.not_eq_true] at h
  obtain ⟨hlist, hitem, himage, hterm⟩ := h
  rw [fieldText, hlist, unwrapped_of_not_isLibraryItem hitem]
  cases v with
  | term t => cases hterm
  | mapping es =>
    rw [singleText, himage]
    rfl
  | _ => rfl

end Value

/-- Without a property the terms of a list show their names. -/
theorem termListText_none (items : List Value) :
    termListText items none =
      listSeparator.intercalate ((items.filterMap Value.term?).map Term.name) := by
  have hnames : (fun t : Term => t.text? none) = fun t => some t.name := rfl
  rw [termListText, hnames, List.filterMap_eq_map']

namespace Render

/-! ## What an answer shows -/

/-- An answer shows as a text: its value renders so.  The failure of a source shows as nothing. -/
def Shows (text : String) : Except Failure Value → Prop
  | .ok v => v.render = text
  | .error e => IsSource e ∧ text = ""

theorem shows_asSource_bind {α : Type} {name text : String} {x : Except Failure α}
    {f : α → PassM Value} {s : PassState} (herror : ∀ e, x = .error e → text = "")
    (hok : ∀ a, x = .ok a → Shows text (outcome (f a) s).1) :
    Shows text (outcome (asSource name x >>= f) s).1 := by
  rw [outcome_bind, outcome_asSource]
  cases x with
  | error e => cases e <;> exact ⟨trivial, herror _ rfl⟩
  | ok a => exact hok a rfl

namespace Resolver

variable {r : Resolver} {s : PassState}

theorem shows_inlineImage (es : Entries) :
    Shows (imageText r.attachments es) (outcome (r.inlineImage es) s).1 := by
  unfold inlineImage imageText
  cases r.attachments with
  | none => rfl
  | some store =>
    refine shows_asSource_bind (fun e hfile => by simp only [hfile]) fun file hfile => ?_
    simp only [hfile]
    cases file with
    | none => rfl
    | some path =>
      by_cases hempty : path = ""
      · subst hempty
        rfl
      · -- the empty path was the only other case
        simp only [hempty, if_false]
        refine shows_asSource_bind (fun e hread => by simp only [hread]) fun content hread => ?_
        simp only [hread]
        cases content <;> rfl

theorem shows_present (field : String) (v : Value) :
    Shows (v.singleText r.attachments) (outcome (r.present field v) s).1 := by
  unfold present Value.singleText
  cases v with
  | mapping es =>
    dsimp only
    split
    · rw [outcome_bind_ok _ (outcome_notice _ s)]
      exact shows_inlineImage es
    · rfl
  | _ => rfl

variable {tag : Tag} {v : Value}

/-- A tag without properties shows the value of its field by the rules. -/
theorem shows_shown_field (h : tag.properties = []) (v : Value) :
    Shows (v.fieldText r.attachments) ((r.shown tag v).map Resolved.raw) := by
  unfold shown Value.fieldText
  rw [if_pos h]
  split
  · rw [h, ← termListText_none]
    rfl
  · have hpresent := shows_present (r := r) (s := {}) tag.field v.unwrapped
    rcases hanswer : (outcome (r.present tag.field v.unwrapped) {}).1 with e | w <;>
      rw [hanswer] at hpresent <;> exact hpresent

/-- A tag with properties shows the value at their end as it renders. -/
theorem shows_shown_path (hlist : v.isTermList = false) (h : tag.properties ≠ []) :
    Shows (traverse v tag.properties).render ((r.shown tag v).map Resolved.raw) := by
  rw [shown, hlist, if_neg (by decide), if_neg h]
  rfl

end Resolver

/-! ## The text of a tag -/

namespace Pass

variable {p : Pass} {tag : Tag} {s : PassState} {v : Value} {text : String}

/-- Without filters the text of a tag is what its answer shows. -/
theorem text_of_shows (hfilters : tag.filters = []) (hlabel : ¬ p.resolver.AsksLabel tag)
    (hanswer : p.resolver.answer s tag.source tag.field ⟨p.recordId, 0⟩ p.row = .ok v)
    (hshows : Shows text ((p.resolver.shown tag v).map Resolved.raw)) :
    (outcome (p.renderTag tag) s).1 = .ok text.toList := by
  let u : PassState := { s with events := s.events ++ [.tagFound] }
  have hresolved : (outcome (p.resolver.resolveTag tag ⟨p.recordId, 0⟩ p.row) u).1 =
      p.resolver.shown tag v := by
    rw [(Resolver.outcome_resolveTag hlabel u).1]
    exact congrArg (Except.bind · _) hanswer
  rw [outcome_renderTag, tagText, outcome_bind, outcome_resolveOrFail]
  rcases houtcome : outcome (p.resolver.resolveTag tag ⟨p.recordId, 0⟩ p.row) u with
    ⟨e | resolved, t⟩ <;>
    rw [houtcome] at hresolved <;> rw [← hresolved] at hshows
  · -- a source that fails leaves no text
    obtain ⟨hsource, rfl⟩ := hshows
    cases e with
    | source n message => rfl
    | _ => exact hsource.elim
  · have hrender : resolved.raw.render = text := hshows
    simp only [outcome_showResolved, hfilters, Registry.applyChain, hrender]

/-- A tag without properties shows the value of its field by the rules. -/
theorem text_field (hproperties : tag.properties = []) (hfilters : tag.filters = [])
    (hanswer : p.resolver.answer s tag.source tag.field ⟨p.recordId, 0⟩ p.row = .ok v) :
    (outcome (p.renderTag tag) s).1 = .ok (v.fieldText p.resolver.attachments).toList := by
  refine text_of_shows hfilters ?_ hanswer (Resolver.shows_shown_field hproperties v)
  rintro ⟨hlast, -⟩
  rw [hproperties] at hlast
  cases hlast

/-- A tag with properties shows what they lead to as it renders. -/
theorem text_path (hproperties : tag.properties ≠ []) (hfilters : tag.filters = [])
    (hlabel : ¬ p.resolver.AsksLabel tag)
    (hanswer : p.resolver.answer s tag.source tag.field ⟨p.recordId, 0⟩ p.row = .ok v)
    (hlist : v.isTermList = false) :
    (outcome (p.renderTag tag) s).1 = .ok (traverse v tag.properties).render.toList :=
  text_of_shows hfilters hlabel hanswer (Resolver.shows_shown_path hlist hproperties)

theorem traverse_singleton (name : String) (v : Value) :
    traverse (.mapping [(name, v)]) [name] = v := by
  have hstep : stepInto? (.mapping [(name, v)]) name = some v := List.lookup_cons_self
  rw [traverse, Value.unwrapped_singleton, followPath, hstep]
  rfl

/-! ## Properties and fields -/

/-- The same value behind a property and in a field of its own.  Behind the property it shows as
    it renders, in the field by the rules.  What there is a rule for renders as nothing; so the
    texts agree exactly when there is no rule for the value, or the rule gives no text. -/
theorem text_property_eq_iff {p q : Pass} {nested bare : Tag} {name : String} {v : Value}
    {s t : PassState} (hnested : nested.properties = [name]) (hbare : bare.properties = [])
    (hfilters : nested.filters = [] ∧ bare.filters = []) (hname : name ≠ labelProperty)
    (hheld : p.resolver.answer s nested.source nested.field ⟨p.recordId, 0⟩ p.row =
      .ok (.mapping [(name, v)]))
    (hfield : q.resolver.answer t bare.source bare.field ⟨q.recordId, 0⟩ q.row = .ok v) :
    (outcome (p.renderTag nested) s).1 = .ok v.render.toList ∧
    (outcome (q.renderTag bare) t).1 = .ok (v.fieldText q.resolver.attachments).toList ∧
    (v.HasRule → v.render = "") ∧
    ((outcome (p.renderTag nested) s).1 = (outcome (q.renderTag bare) t).1 ↔
      (v.HasRule → v.fieldText q.resolver.attachments = "")) := by
  have hlabel : ¬ p.resolver.AsksLabel nested := by
    rintro ⟨hlast, -⟩
    rw [hnested] at hlast
    exact hname (Option.some.inj hlast)
  have hproperty : (outcome (p.renderTag nested) s).1 = .ok v.render.toList := by
    rw [text_path (by rw [hnested]; exact List.cons_ne_nil _ _) hfilters.1 hlabel hheld rfl,
      hnested, traverse_singleton]
  have hown := text_field hbare hfilters.2 hfield
  refine ⟨hproperty, hown, Value.render_of_hasRule, ?_⟩
  have htexts : (outcome (p.renderTag nested) s).1 = (outcome (q.renderTag bare) t).1 ↔
      v.render = v.fieldText q.resolver.attachments := by
    rw [hproperty, hown, Except.ok.injEq, String.toList_inj]
  rw [htexts]
  constructor
  · intro hsame hrule
    rw [← hsame, Value.render_of_hasRule hrule]
  · intro hempty
    by_cases hrule : v.HasRule
    · rw [hempty hrule, Value.render_of_hasRule hrule]
    · exact (Value.fieldText_of_not_hasRule _ hrule).symm

/-- A library item that is a vector image. -/
def logo : Value :=
  .mapping [("type", .text "media_library"),
    ("value", .mapping [("mime_type", .text "image/svg+xml"), ("ID", .int 7)])]

/-- A pass over one source in which every field has this value, with one image in the store. -/
def passOver (v : Value) : Pass :=
  { ofSources [sourceOf "custom" v] .empty with
    resolver := ⟨[sourceOf "custom" v], some ⟨fun _ => .ok (some "/logo.svg"),
      fun _ => .ok (some "<svg/>")⟩, "row"⟩ }

def iconTag : Tag := ⟨"custom", ["f", "icon"], [], "%custom:f.icon%".toList, 0⟩
def fieldTag : Tag := ⟨"custom", ["f"], [], "%custom:f%".toList, 0⟩

/-- The image is shown in the field and not behind the property. -/
theorem text_property_eq_iff_logo :
    logo.HasRule ∧
    (outcome ((passOver (.mapping [("icon", logo)])).renderTag iconTag) {}).1 = .ok [] ∧
    (outcome ((passOver logo).renderTag fieldTag) {}).1 = .ok "<svg/>".toList := by
  have hlogo : logo.HasRule := by decide
  obtain ⟨hnested, hbare, hrender, -⟩ := @text_property_eq_iff
    (passOver (.mapping [("icon", logo)])) (passOver logo) iconTag fieldTag "icon" logo {} {}
    rfl rfl ⟨rfl, rfl⟩ (by decide) rfl rfl
  rw [hrender hlogo] at hnested
  exact ⟨hlogo, hnested, hbare⟩

/-- The name of a term is shown in a field, but not behind a property. -/
theorem not_forall_stored_alike :
    ¬ ∀ (name : String) (v : Value), isPrivateName name = false → name ≠ labelProperty →
      (outcome ((passOver (.mapping [(name, v)])).render
        ("%custom:f." ++ name ++ "%").toList) {}).1 =
      (outcome ((passOver v).render "%custom:f%".toList) {}).1 := by
  intro h
  have halike := h "p" (.term { name := "News" }) (by decide) (by decide)
  have hnested : (outcome ((passOver (.mapping [("p", .term { name := "News" })])).render
      "%custom:f.p%".toList) {}).1 = .ok [] := by cbv
  have hbare : (outcome ((passOver (.term { name := "News" })).render
      "%custom:f%".toList) {}).1 = .ok "News".toList := by cbv
  have hempty : (.ok [] : Except Failure (List Char)) = .ok "News".toList :=
    hnested.symm.trans (halike.trans hbare)
  cases hempty

end Pass
end Render
end RecordTemplate
