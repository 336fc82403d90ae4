/-
  RecordTemplate.Proofs.Template.Absence

  Texts in which a rule finds nothing.  A tag or a marker that begins a text begins it also when
  more follows, so there is none in any piece of a text in which there is none; and without tags
  there are no fallbacks either.  Replacing what is found then leaves the text as it is
  (`substitute_of_absent`).
-/

import RecordTemplate.Proofs.Conditional.Spelling
import RecordTemplate.Proofs.Template.Reread
import RecordTemplate.Proofs.Template.Tiling
import RecordTemplate.Render.Substitution

namespace RecordTemplate.Template

variable {α : Type}

namespace Recogniser

variable {rule : Recogniser α} {s t : List Char}

/-! ## Nothing found -/

/-- A rule reads nothing at any place of a text. -/
def Absent (rule : Recogniser α) (s : List Char) : Prop := ∀ t, t <:+ s → rule.run t = none

theorem run_nil (rule : Recogniser α) : rule.run [] = none := by
  cases h : rule.run [] with
  | none => rfl
  | some r =>
    obtain ⟨hne, hs⟩ := rule.splits h
    exact absurd (List.append_eq_nil_iff.1 hs.symm).1 hne

theorem Absent.scan_eq (h : rule.Absent s) : rule.scan s = ⟨[], s⟩ := by
  rcases rule.scan_cases s with ⟨hscan, -⟩ | ⟨lead, t, r, rfl, -, hrun, -⟩
  · exact hscan
  · have hnone := h t (List.suffix_append lead t)
    rw [hrun] at hnone
    cases hnone

/-- Nothing is found where nothing can be read. -/
theorem absent_iff : rule.Absent s ↔ (rule.scan s).found = [] := by
  refine ⟨fun h => by rw [h.scan_eq], fun h => ?_⟩
  rcases rule.scan_cases s with ⟨-, hnone⟩ | ⟨lead, t, r, -, -, -, hscan⟩
  · rintro t ⟨w, rfl⟩
    by_cases ht : t = []
    · rw [ht, run_nil]
    · have hplace : w.length < (w ++ t).length := by
        have := List.length_pos_iff.2 ht
        rw [List.length_append]
        omega
      have := hnone w.length hplace
      rwa [List.drop_left] at this
  · rw [hscan, Scan.found_prepend_eq_nil] at h
    cases h

/-- A rule that reads something also when more follows. -/
def Persists (rule : Recogniser α) : Prop :=
  ∀ s rest, (rule.run s).isSome = true → (rule.run (s ++ rest)).isSome = true

/-- What is nowhere in a text is nowhere in a piece of it. -/
theorem Absent.of_infix (hrule : rule.Persists) (h : rule.Absent s) (ht : t <:+: s) :
    rule.Absent t := by
  obtain ⟨before, after, rfl⟩ := ht
  rintro u ⟨w, rfl⟩
  have hnone : rule.run (u ++ after) = none := h (u ++ after) ⟨before ++ w, by simp⟩
  cases hu : rule.run u with
  | none => rfl
  | some r =>
    have := hrule u after (by rw [hu]; rfl)
    rw [hnone] at this
    cases this

theorem Quiet.absent (h : rule.Quiet s) : rule.Absent s := by
  intro t ht
  by_cases hne : t = []
  · rw [hne, run_nil]
  · have := h t [] hne ht
    rwa [List.append_nil] at this

/-- The text of what a scan finds is a piece of the text. -/
theorem infix_of_mem_found {f : Found α} (h : f ∈ (rule.scan s).found) : f.text <:+: s := by
  obtain ⟨t, rest, ht, hrun⟩ := rule.run_of_mem_found s f h
  obtain ⟨-, rfl⟩ := rule.splits hrun
  exact (List.prefix_append f.text rest).isInfix.trans ht.isInfix

end Recogniser

/-! ## Tags and markers -/

theorem persists_tagRule (ks : Keywords) : (tagRule ks).Persists := by
  intro s rest h
  change (tagForms ks s).head?.isSome = true at h
  show (tagForms ks (s ++ rest)).head?.isSome = true
  obtain ⟨r, hr⟩ := Option.isSome_iff_exists.1 h
  have hmem := List.mem_of_head? hr
  obtain ⟨t, rfl⟩ := eq_percent_of_mem_tagForms hmem
  obtain ⟨k, hk, hread⟩ := List.mem_filterMap.1 hmem
  -- the keyword that reads a tag reads it again, whatever the others do
  have hmem' : ⟨r.item, r.text, r.rest ++ rest⟩ ∈ tagForms ks ('%' :: t ++ rest) :=
    List.mem_filterMap.2 ⟨k, hk, withKeyword?_extended hread rest⟩
  exact List.isSome_head?.2 (List.ne_nil_of_mem hmem')

theorem persists_markerRule : markerRule.Persists := by
  intro s rest h
  obtain ⟨r, hr⟩ := Option.isSome_iff_exists.1 h
  obtain ⟨-, hs⟩ := markerRule.splits hr
  have hagain : markerRule.run (s ++ rest) = some ⟨r.item, r.text, r.rest ++ rest⟩ := by
    rw [hs, List.append_assoc]
    exact Marker.run_of_spelled (Marker.spelled_of_run hr) _
  rw [hagain]
  rfl

/-- Without markers there is no block. -/
theorem Block.find?_of_absent {text : List Char} (h : markerRule.Absent text) :
    find? text = none := by
  rw [find?, h.scan_eq]
  rfl

/-- A fallback begins with a tag. -/
theorem fallbackRule_run_eq_none {ks : Keywords} {s : List Char}
    (h : (tagRule ks).run s = none) : (fallbackRule ks).run s = none := by
  have hnil : tagForms ks s = [] := List.head?_eq_none_iff.1 h
  show (tagForms ks s).findSome? FallbackForm.ofTag? = none
  rw [hnil, List.findSome?_nil]

/-- Without tags all that a scan finds are markers. -/
theorem Construct.isMarker_of_mem_found {ks : Keywords} {text : List Char} {f : Found Construct}
    (hnone : (tagRule ks).Absent text) (h : f ∈ ((constructRule ks).scan text).found) :
    ∃ m, f.item = .marker m := by
  obtain ⟨t, rest, ht, hrun⟩ := (constructRule ks).run_of_mem_found text f h
  have htag : (tagRule ks).run t = none := hnone t ht
  change Construct.run ks t = _ at hrun
  unfold Construct.run at hrun
  rw [htag, fallbackRule_run_eq_none htag] at hrun
  cases hm : markerRule.run t with
  | none => simp [hm] at hrun
  | some r =>
    rw [hm] at hrun
    exact ⟨r.item, (congrArg Reading.item (Option.some.inj hrun)).symm⟩

end RecordTemplate.Template

namespace RecordTemplate.Render

open RecordTemplate.Template

/-- Without markers there is none to be noticed. -/
theorem strayMarker?_of_absent {text : List Char} (h : markerRule.Absent text) :
    strayMarker? text = none := by
  rw [strayMarker?, h.scan_eq]
  rfl

/-! ## Nothing replaced -/

variable {m : Type → Type} [Monad m] [LawfulMonad m]

/-- Replacing everything by its own text leaves the text as it is. -/
theorem replaceFound_eq_pure {α : Type} {replace : Found α → m (List Char)} {s : Scan α}
    (h : ∀ f ∈ s.found, replace f = pure f.text) : replaceFound replace s = pure s.text := by
  have hpieces : (s.found.mapM fun f => do return f.lead ++ (← replace f)) =
      pure (s.found.map fun f => f.lead ++ f.text) := by
    generalize s.found = found at h
    induction found with
    | nil => rfl
    | cons f found ih =>
      have hrest := ih fun f' hf' => h f' (List.mem_cons_of_mem _ hf')
      rw [List.mapM_cons, h f List.mem_cons_self, hrest]
      simp
  rw [replaceFound, hpieces, pure_bind]
  rfl

variable {ks : Keywords} {text : List Char}

theorem substituteTags_of_absent (h : (tagRule ks).Absent text)
    (renderTag : Tag → m (List Char)) : substituteTags ks renderTag text = pure text := by
  have hnone := h.scan_eq
  rw [substituteTags, replaceFound_eq_pure, Recogniser.text_scan]
  rw [hnone]
  exact fun f hf => absurd hf List.not_mem_nil

/-- Without tags nothing is replaced: markers stay, and there are no tags inside them. -/
theorem substitute_of_absent (h : (tagRule ks).Absent text) (renderTag : Tag → m (List Char))
    (renderFallback : FallbackForm → m (List Char)) :
    substitute ks renderTag renderFallback text = pure text := by
  rw [substitute, replaceFound_eq_pure, Recogniser.text_scan]
  intro f hf
  obtain ⟨mk, hmarker⟩ := Construct.isMarker_of_mem_found h hf
  have hinside : (tagRule ks).Absent f.text :=
    h.of_infix (persists_tagRule ks) (Recogniser.infix_of_mem_found hf)
  simp only [hmarker]
  exact substituteTags_of_absent hinside renderTag

end RecordTemplate.Render
