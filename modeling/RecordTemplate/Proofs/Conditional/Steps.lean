/-
  RecordTemplate.Proofs.Conditional.Steps

  The steps of a reduction, whatever the conditions come to: the first block of a text gives way to
  the body of one of its branches, or to nothing.

  The number of markers is no measure of steps, since pieces that come together may make a new
  marker.  But a step takes away the two markers of a block, which are eleven characters at least
  (`Step.shorter`).
-/

import RecordTemplate.Proofs.Conditional.FirstBlock
import RecordTemplate.Proofs.Template.Split

namespace RecordTemplate.Template

/-! ## What is left of a block -/

/-- What may be left of a block lies between its markers, and has markers that are matched among
    themselves. -/
structure Remainder (body : List Char) (inside : List Token) (o c : Token) : Prop where
  fits : o.stop + body.length ≤ c.position
  balanced : depthAfter 0 (roles body) = some 0
  sublist : (roles body).Sublist (inside.map Token.role)

section Markers

variable {text : List Char} {t : Token}

/-- An opening marker takes up six characters at least. -/
theorem six_le_of_opens (ht : t ∈ markerTokens text) (h : t.role = .opens) :
    t.position + 6 ≤ t.stop := by
  obtain ⟨m, hkind, hspelled⟩ := (MarkersOf.of_markerTokens text).spelled t ht
  rw [Token.role, hkind] at h
  cases m with
  | ifOpen condition => exact Nat.add_le_add_left hspelled.six_le_length t.position
  | elseIf condition => cases h
  | otherwise => cases h
  | close => cases h

/-- A closing marker takes up five characters. -/
theorem five_of_closes (ht : t ∈ markerTokens text) (h : t.role = .closes) :
    t.stop = t.position + 5 := by
  obtain ⟨m, hkind, hspelled⟩ := (MarkersOf.of_markerTokens text).spelled t ht
  rw [Token.role, hkind] at h
  cases m with
  | ifOpen condition => cases h
  | elseIf condition => cases h
  | otherwise => cases h
  | close => rw [Token.stop, hspelled.length_close]

end Markers

namespace Block.LiesIn

variable {b : Block} {text body : List Char} {earlier inside later : List Token} {o c : Token}

theorem stop_le (h : b.LiesIn text (markerTokens text) earlier inside later o c) :
    o.stop ≤ c.position := by
  have hsorted := (MarkersOf.of_markerTokens text).sorted.sublist h.delimiters_sublist
  exact (List.pairwise_cons.1 hsorted).1 c (by simp)

/-- The body of a branch lies between neighbouring delimiters. -/
theorem remainder_of_branch (h : b.LiesIn text (markerTokens text) earlier inside later o c)
    {branch : Branch} (hbranch : branch ∈ b.branches) : Remainder branch.body inside o c := by
  rw [h.isLeftmost.branches, ← List.map_uncurry_zip_eq_zipWith] at hbranch
  obtain ⟨⟨d, e⟩, hp, rfl⟩ := List.mem_map.1 hbranch
  obtain ⟨us, body, vs, hsplit, hbalanced, hinside, -⟩ := h.between hp
  have hroles : roles (piece text d.stop e.position) = body.map Token.role := by
    rw [← map_role_markersFrom d.stop, markersFrom_piece hsplit]
  -- the delimiters stand in their order between the markers of the block
  have hsorted := (MarkersOf.of_markerTokens text).sorted
  obtain ⟨hd, he⟩ := List.of_mem_zip hp
  obtain ⟨hfirst, hrest⟩ := List.pairwise_cons.1 (hsorted.sublist h.delimiters_sublist)
  have hstart : o.stop ≤ d.stop := by
    rcases List.mem_cons.1 hd with rfl | hd
    · exact Nat.le_refl _
    · exact Nat.le_trans (hfirst d (List.mem_append_left _ hd)) (Nat.le_add_right _ _)
  have hend : e.position ≤ c.position := by
    rcases List.mem_append.1 he with he | he
    · have hbefore := (List.pairwise_append.1 hrest).2.2 e he c List.mem_cons_self
      exact Nat.le_trans (Nat.le_add_right _ _) hbefore
    · rw [List.mem_singleton.1 he]
  have hbetween : d.stop ≤ e.position := by
    rw [hsplit] at hsorted
    exact (List.pairwise_cons.1 (List.pairwise_append.1 hsorted).2.1).1 e (by simp)
  have hlength : (piece text d.stop e.position).length ≤ e.position - d.stop :=
    List.length_take_le _ _
  show Remainder (piece text d.stop e.position) inside o c
  refine ⟨by omega, ?_, ?_⟩
  · rw [hroles]
    exact hbalanced
  · rw [hroles]
    exact hinside.map Token.role

theorem remainder (h : b.LiesIn text (markerTokens text) earlier inside later o c)
    (hbody : body = [] ∨ ∃ branch ∈ b.branches, branch.body = body) :
    Remainder body inside o c := by
  rcases hbody with rfl | ⟨branch, hbranch, rfl⟩
  · have hnone : roles [] = [] := by
      rw [roles, markerTokens_eq, markersFrom, Recogniser.scan_nil]
      rfl
    exact ⟨h.stop_le, by rw [hnone]; rfl, by rw [hnone]; exact List.nil_sublist _⟩
  · exact h.remainder_of_branch hbranch

end Block.LiesIn
end RecordTemplate.Template

namespace RecordTemplate.Render

open RecordTemplate.Template

/-! ## Steps -/

/-- A step of a reduction: the first block gives way to the body of one of its branches or to
    nothing. -/
inductive Step (text : List Char) : List Char → Prop where
  | splice {b : Block} {body : List Char} (hb : Block.find? text = some b)
      (hbody : body = [] ∨ ∃ branch ∈ b.branches, branch.body = body) : Step text (splice b body)

namespace Step

variable {text t : List Char}

/-- A step only deletes. -/
theorem sublist (h : Step text t) : t.Sublist text := by
  cases h with
  | splice hb hbody => exact splice_sublist hb hbody

/-- A step takes away the markers of a block. -/
theorem shorter (h : Step text t) : t.length + 11 ≤ text.length := by
  cases h with
  | @splice b body hb hbody =>
    have hfound := Block.foundIn_find? text
    rw [hb] at hfound
    obtain ⟨earlier, inside, later, o, c, hlies⟩ := hfound
    have hfits := (hlies.remainder hbody).fits
    have ho : o ∈ markerTokens text := by rw [hlies.split]; simp
    have hc : c ∈ markerTokens text := by rw [hlies.split]; simp
    have hopener := six_le_of_opens ho hlies.opens
    have hcloser := five_of_closes hc hlies.closes
    have hbounds := (MarkersOf.of_markerTokens text).bounds c hc
    rw [Nat.zero_add] at hbounds
    rw [Render.splice, hlies.before, hlies.after]
    simp only [List.length_append, List.length_take, List.length_drop]
    omega

end Step
end RecordTemplate.Render
