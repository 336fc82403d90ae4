/-
  RecordTemplate.Proofs.Conditional.Seams

  What a step of a reduction does to the number of pairs.

  The text before a block, the body that is left of the block and the text behind it are put
  together and read anew.  Every marker of the new text that lies across no seam was there before
  (`markersFrom_append`), so a step takes away a pair unless opening or closing markers come to be
  across the seams; there are two of these at most (`pairs_after_step`).
-/

import RecordTemplate.Proofs.Conditional.PairCount
import RecordTemplate.Proofs.Conditional.Steps

namespace RecordTemplate.Template

/-! ## Markers and their brackets -/

/-- A marker has one closing bracket, at its end. -/
theorem Marker.Spelled.eq_append {m : Marker} {t : List Char} (h : Spelled m t) :
    ∃ x, t = x ++ [']'] ∧ ']' ∉ x := by
  cases h with
  | @ifOpen c hc => exact ⟨ifStart ++ c, rfl, by simp [ifStart, hc.2]⟩
  | @elseIf g c hg hc =>
    have hgap : ']' ∉ g := by
      rcases hg with rfl | ⟨x, hx, rfl⟩
      · exact List.not_mem_nil
      · intro hmem
        rw [← List.mem_singleton.1 hmem] at hx
        exact absurd hx (by decide)
    exact ⟨elseStart ++ g ++ ifWord ++ c, rfl, by simp [elseStart, ifWord, hgap, hc.2]⟩
  | otherwise => exact ⟨elseStart, rfl, by decide⟩
  | close => exact ⟨['[', '/', 'i', 'f'], rfl, by decide⟩

/-- The text up to a closing bracket is told by the bracket. -/
theorem eq_of_append_bracket {a b s s' : List Char} (ha : ']' ∉ a) (hb : ']' ∉ b)
    (h : a ++ ']' :: s = b ++ ']' :: s') : a = b ∧ s = s' := by
  rcases List.append_eq_append_iff.1 h with ⟨_ | ⟨c, u⟩, rfl, hu⟩ | ⟨_ | ⟨c, u⟩, rfl, hu⟩
  · exact ⟨(List.append_nil a).symm, List.tail_eq_of_cons_eq hu⟩
  · cases hu
    simp at hb
  · exact ⟨List.append_nil b, (List.tail_eq_of_cons_eq hu).symm⟩
  · cases hu
    simp at ha

theorem Recogniser.ClearBefore.of_suffix {α : Type} {rule : Recogniser α} {rest lead u : List Char}
    (h : rule.ClearBefore rest lead) (hu : u <:+ lead) : rule.ClearBefore rest u :=
  fun t hne ht => h t hne (ht.trans hu)

/-- Markers behind a piece that belongs to none of them are those of the text without the piece. -/
theorem MarkersOf.marker_behind {p : Nat} {u lead t rest : List Char} {m : Marker}
    {ts : List Token} (hlead : markerRule.ClearBefore (t ++ rest) (u ++ lead))
    (ht : Marker.Spelled m t)
    (hts : MarkersOf (p + (u ++ lead).length + t.length) rest ts) :
    markersFrom (p + u.length) (lead ++ (t ++ rest)) =
      ⟨.marker m, t, p + (u ++ lead).length⟩ :: ts := by
  have hplace : p + u.length + lead.length = p + (u ++ lead).length := by
    rw [List.length_append, Nat.add_assoc]
  rw [markersFrom_clear (hlead.of_suffix (List.suffix_append u lead)), hplace,
    markersFrom_spelled ht, hts.markersFrom_eq]

/-- Behind a closing bracket the markers are found again, whatever stands before it. -/
theorem markersFrom_suffix {w : List Char} (hw : ']' ∉ w) (p : Nat) (rest : List Char) :
    markersFrom (p + (w ++ [']']).length) rest <:+ markersFrom p (w ++ [']'] ++ rest) := by
  have h := MarkersOf.of_markersFrom p (w ++ [']'] ++ rest)
  generalize hs : w ++ [']'] ++ rest = s at h
  generalize markersFrom p s = ts at h
  cases h with
  | absent habsent =>
    have hrest : markerRule.Absent rest := by
      rw [← hs] at habsent
      exact habsent.of_infix persists_markerRule (List.suffix_append _ rest).isInfix
    exact (markersFrom_of_absent hrest _).symm ▸ List.nil_suffix
  | @marker _ lead t rest' m ts hlead ht hts =>
    have hwhole : w ++ [']'] <+: lead ++ (t ++ rest') := ⟨rest, hs⟩
    by_cases hlength : (w ++ [']']).length ≤ lead.length
    · -- the bracket belongs to no marker
      obtain ⟨u, rfl⟩ := List.prefix_of_prefix_length_le hwhole (List.prefix_append lead _) hlength
      have hrest : rest = u ++ (t ++ rest') :=
        List.append_cancel_left (hs.trans (List.append_assoc _ u _))
      have hbehind := MarkersOf.marker_behind hlead ht hts
      rw [← hrest] at hbehind
      exact hbehind ▸ List.suffix_rfl
    · -- the bracket ends the marker that is found first
      obtain ⟨x, rfl, hx⟩ := ht.eq_append
      rw [List.length_append, List.length_singleton] at hlength
      have hbefore : lead <+: w := by
        refine List.prefix_of_prefix_length_le ?_ (List.prefix_append w ([']'] ++ rest)) (by omega)
        rw [← List.append_assoc, hs]
        exact List.prefix_append lead _
      obtain ⟨u, rfl⟩ := hbefore
      have hu : ']' ∉ u := fun hmem => hw (List.mem_append_right lead hmem)
      have hsame : u ++ ']' :: rest = x ++ ']' :: rest' := by
        simpa [List.append_assoc] using hs
      obtain ⟨rfl, rfl⟩ := eq_of_append_bracket hu hx hsame
      have hplace : p + (lead ++ u ++ [']']).length = p + lead.length + (u ++ [']']).length := by
        simp only [List.length_append]
        omega
      rw [hplace, hts.markersFrom_eq]
      exact List.suffix_cons _ ts

/-! ## Markers across a seam -/

/-- A marker has text on both sides of a place. -/
def Across (place : Nat) (t : Token) : Prop := t.position < place ∧ place < t.stop

instance (place : Nat) (t : Token) : Decidable (Across place t) := by
  unfold Across
  infer_instance

/-- The seam between two texts stands before the first marker, behind it or inside it. -/
theorem seam_cases {u v lead t rest : List Char} (h : u ++ v = lead ++ (t ++ rest)) :
    (∃ l, lead = u ++ l ∧ v = l ++ (t ++ rest)) ∨ (∃ l, u = lead ++ t ++ l ∧ rest = l ++ v) ∨
      ∃ l w, l ≠ [] ∧ w ≠ [] ∧ u = lead ++ l ∧ t = l ++ w ∧ v = w ++ rest := by
  rcases List.append_eq_append_iff.1 h with ⟨l, rfl, hv⟩ | ⟨l, rfl, hown⟩
  · exact .inl ⟨l, rfl, hv⟩
  · rcases List.append_eq_append_iff.1 hown with ⟨w, rfl, hrest⟩ | ⟨w, rfl, hv⟩
    · exact .inr (.inl ⟨w, (List.append_assoc lead t w).symm, hrest⟩)
    · by_cases hl : l = []
      · exact .inl ⟨[], by simp [hl], by simp [hl, hv]⟩
      · by_cases hw : w = []
        · exact .inr (.inl ⟨[], by simp [hw], by simp [hw, hv]⟩)
        · exact .inr (.inr ⟨l, w, hl, hw, rfl, rfl, hv⟩)

/-- When two texts are put together, the markers that do not lie across the seam are markers of one
    of them. -/
theorem markersFrom_append (p : Nat) (u v : List Char) :
    ((markersFrom p (u ++ v)).filter fun t => ¬Across (p + u.length) t).Sublist
      (markersFrom p u ++ markersFrom (p + u.length) v) := by
  have h := MarkersOf.of_markersFrom p (u ++ v)
  generalize hs : u ++ v = s at h
  generalize markersFrom p s = ts at h
  induction h generalizing u with
  | absent => exact List.nil_sublist _
  | @marker p lead t rest m ts hlead ht hts ih =>
    rcases seam_cases hs with ⟨l, rfl, rfl⟩ | ⟨l, rfl, rfl⟩ | ⟨l, w, hl, hw, rfl, rfl, rfl⟩
    · -- all markers stand behind the seam
      rw [MarkersOf.marker_behind hlead ht hts]
      exact List.filter_sublist.trans (List.sublist_append_right _ _)
    · -- the first marker stands before the seam, and so it is a marker of the first text
      have hplace : p + (lead ++ t ++ l).length = p + lead.length + t.length + l.length := by
        simp only [List.length_append]
        omega
      have hfirst : ¬Across (p + (lead ++ t ++ l).length) ⟨.marker m, t, p + lead.length⟩ := by
        rintro ⟨-, hacross⟩
        rw [hplace] at hacross
        change _ < p + lead.length + t.length at hacross
        omega
      have hmarkers : markersFrom p (lead ++ t ++ l) =
          ⟨.marker m, t, p + lead.length⟩ :: markersFrom (p + lead.length + t.length) l := by
        rw [← List.append_assoc] at hlead
        rw [List.append_assoc, markersFrom_clear (hlead.of_append persists_markerRule),
          markersFrom_spelled ht]
      rw [List.filter_cons_of_pos (by simpa using hfirst), hmarkers, hplace, List.cons_append]
      exact (ih l rfl).cons_cons _
    · -- the first marker lies across the seam, and ends with its bracket in the second text
      have hplace : p + (lead ++ l).length + w.length = p + lead.length + (l ++ w).length := by
        simp only [List.length_append]
        omega
      have hacross : Across (p + (lead ++ l).length) ⟨.marker m, l ++ w, p + lead.length⟩ := by
        have hbefore := List.length_pos_iff.2 hl
        have hbehind := List.length_pos_iff.2 hw
        rw [List.length_append]
        refine ⟨?_, ?_⟩
        · show p + lead.length < _
          omega
        · show _ < p + lead.length + (l ++ w).length
          rw [← hplace, List.length_append]
          omega
      obtain ⟨x, hx, hbracket⟩ := ht.eq_append
      obtain ⟨w, a, rfl⟩ := (List.eq_nil_or_concat' w).resolve_left hw
      rw [← List.append_assoc] at hx
      obtain ⟨rfl, ha⟩ := List.append_inj' hx rfl
      cases ha
      have hlater := markersFrom_suffix (fun hmem => hbracket (List.mem_append_right l hmem))
        (p + (lead ++ l).length) rest
      rw [hplace, hts.markersFrom_eq] at hlater
      rw [List.filter_cons_of_neg (by simpa using hacross)]
      exact List.filter_sublist.trans (hlater.sublist.trans (List.sublist_append_right _ _))

/-! ## Pairs before a step -/

namespace Block.LiesIn

variable {b : Block} {text : List Char} {earlier inside later : List Token} {o c : Token}

/-- The markers of the text before a block are those before its opening marker. -/
theorem roles_before (h : b.LiesIn text (markerTokens text) earlier inside later o c) :
    roles b.before = earlier.map Token.role := by
  have hmarkers := MarkersOf.of_markerTokens text
  rw [h.split] at hmarkers
  rw [h.before, ← piece_zero, ← map_role_markersFrom 0,
    (hmarkers.upTo List.drop_zero).markersFrom_eq]

/-- The markers of the text behind a block are those behind its closing marker. -/
theorem roles_after (h : b.LiesIn text (markerTokens text) earlier inside later o c) :
    roles b.after = later.map Token.role := by
  have hmarkers := MarkersOf.of_markerTokens text
  have hsplit : markerTokens text = (earlier ++ o :: inside) ++ c :: later := by
    rw [h.split, List.append_assoc, List.cons_append]
  rw [hsplit] at hmarkers
  rw [h.after, ← map_role_markersFrom c.stop, (hmarkers.after List.drop_zero).markersFrom_eq]

/-- A text has the pair of its block, the pairs within it, and those that the markers around it
    make. -/
theorem length_matchedPairs (h : b.LiesIn text (markerTokens text) earlier inside later o c) :
    (matchedPairs text).length = pairCount 0 (inside.map Token.role) + 1 +
      pairCount 0 (earlier.map Token.role ++ later.map Token.role) := by
  obtain ⟨hblock, hpairs⟩ := pairCount_block h.balanced
  have htext : roles text = earlier.map Token.role ++
      ((.opens :: (inside.map Token.role ++ [.closes])) ++ later.map Token.role) := by
    rw [roles, h.split]
    simp [h.opens, h.closes]
  rw [Template.length_matchedPairs, htext, pairCount_balanced hblock, hpairs]

end Block.LiesIn

end RecordTemplate.Template

namespace RecordTemplate.Render

open RecordTemplate.Template

/-! ## Pairs after a step -/

/-- The opening and closing markers that a step makes: they lie across the seam before what is left
    of the block or across the one behind it. -/
def gluedMarkers (b : Block) (body : List Char) : List Token :=
  (markerTokens (splice b body)).filter fun t =>
    t.role ≠ .separates ∧ (Across b.position t ∨ Across (b.position + body.length) t)

/-- Each seam has one marker across it at most. -/
theorem length_gluedMarkers_le (b : Block) (body : List Char) :
    (gluedMarkers b body).length ≤ 2 := by
  have hsorted : (gluedMarkers b body).Pairwise fun t u => t.stop ≤ u.position :=
    (MarkersOf.of_markerTokens _).sorted.sublist List.filter_sublist
  have hacross : ∀ t ∈ gluedMarkers b body,
      Across b.position t ∨ Across (b.position + body.length) t :=
    fun t ht => (of_decide_eq_true (List.mem_filter.1 ht).2).2
  generalize gluedMarkers b body = ts at hsorted hacross
  match ts with
  | [] | [_] | [_, _] => simp
  | x :: y :: z :: ts =>
    -- of three markers in their order the last one begins behind both seams
    simp only [List.pairwise_cons, List.mem_cons, forall_eq_or_imp] at hsorted hacross
    have hxy : x.stop ≤ y.position := hsorted.1.1
    have hyz : y.stop ≤ z.position := hsorted.2.1.1
    obtain ⟨hx, hy, hz, -⟩ := hacross
    simp only [Across] at hx hy hz
    omega

/-- The markers of the new text that lie across no seam were there before. -/
theorem sublist_after_step (b : Block) (body : List Char) :
    (((markerTokens (splice b body)).filter fun t =>
      ¬(Across b.position t ∨ Across (b.position + body.length) t)).map Token.role).Sublist
        (roles b.before ++ (roles body ++ roles b.after)) := by
  have hfirst := markersFrom_append 0 b.before (body ++ b.after)
  have hsecond := markersFrom_append b.before.length body b.after
  rw [Nat.zero_add] at hfirst
  have hboth : ((markersFrom 0 (b.before ++ (body ++ b.after))).filter fun t =>
      ¬(Across b.position t ∨ Across (b.position + body.length) t)).Sublist
      (markersFrom 0 b.before ++ (markersFrom b.before.length body ++
        markersFrom (b.before.length + body.length) b.after)) := by
    have hfilter : ((markersFrom 0 (b.before ++ (body ++ b.after))).filter fun t =>
        ¬(Across b.position t ∨ Across (b.position + body.length) t)) =
        ((markersFrom 0 (b.before ++ (body ++ b.after))).filter fun t =>
          ¬Across b.position t).filter fun t => ¬Across (b.position + body.length) t := by
      rw [List.filter_filter]
      refine List.filter_congr fun t _ => ?_
      simp [not_or, Bool.and_comm]
    rw [hfilter]
    refine (hfirst.filter _).trans ?_
    rw [List.filter_append]
    exact List.filter_sublist.append hsecond
  have hroles := hboth.map Token.role
  rw [List.map_append, List.map_append, map_role_markersFrom, map_role_markersFrom,
    map_role_markersFrom] at hroles
  rw [markerTokens_eq, splice, List.append_assoc]
  exact hroles

/-- Apart from the markers that a step makes, the new text has no more pairs than its three pieces
    would have if no marker lay across a seam. -/
theorem length_matchedPairs_splice_le (b : Block) (body : List Char) :
    (matchedPairs (splice b body)).length ≤
      pairCount 0 (roles b.before ++ (roles body ++ roles b.after)) +
        (gluedMarkers b body).length := by
  rw [length_matchedPairs, roles]
  refine Nat.le_trans (pairCount_le_filter (fun t =>
    Across b.position t ∨ Across (b.position + body.length) t) 0 _) ?_
  exact Nat.add_le_add_right (pairCount_sublist (sublist_after_step b body) 0) _

/-- A step takes away one pair at least for which it makes no marker. -/
theorem pairs_after_step {text body : List Char} {b : Block} (hb : Block.find? text = some b)
    (hbody : body = [] ∨ ∃ branch ∈ b.branches, branch.body = body) :
    (matchedPairs (splice b body)).length <
        (matchedPairs text).length + (gluedMarkers b body).length ∧
      (gluedMarkers b body).length ≤ 2 := by
  have hfound := Block.foundIn_find? text
  rw [hb] at hfound
  obtain ⟨earlier, inside, later, o, c, hlies⟩ := hfound
  have hremainder := hlies.remainder hbody
  have hbefore := hlies.length_matchedPairs
  have hafter := length_matchedPairs_splice_le b body
  -- what is left of the block is balanced, and has no more pairs than were inside it
  have hinside := pairCount_sublist hremainder.sublist 0
  rw [pairCount_balanced hremainder.balanced, hlies.roles_before, hlies.roles_after] at hafter
  refine ⟨?_, length_gluedMarkers_le b body⟩
  omega

/-- A text with one pair.  Once its block is reduced, two opening markers are put together. -/
def brokenMarkers : List Char := "[i[if:a]f:b][i[/if]f:c]X[/if]Y[/if]".toList

/-- The block of the pair. -/
def brokenBlock : Block :=
  ⟨"[i".toList, [⟨some "a".toList, "f:b][i".toList, 2⟩], 19, "f:c]X[/if]Y[/if]".toList⟩

/-- In the new text each seam has an opening marker across it, and both are closed. -/
theorem pairs_after_step_broken :
    Block.find? brokenMarkers = some brokenBlock ∧
      (matchedPairs brokenMarkers).length = 1 ∧
      (gluedMarkers brokenBlock "f:b][i".toList).length = 2 ∧
      (matchedPairs (splice brokenBlock "f:b][i".toList)).length = 2 ∧
      (matchedPairs (splice brokenBlock "f:b][i".toList)).length <
        (matchedPairs brokenMarkers).length + (gluedMarkers brokenBlock "f:b][i".toList).length := by
  have hb : Block.find? brokenMarkers = some brokenBlock := by decide +kernel
  have hbody : ∃ branch ∈ brokenBlock.branches, branch.body = "f:b][i".toList :=
    ⟨_, List.mem_cons_self, rfl⟩
  refine ⟨hb, by decide +kernel, by decide +kernel, by decide +kernel, ?_⟩
  exact (pairs_after_step hb (.inr hbody)).1

/-- A step may make more pairs than it takes away. -/
theorem not_forall_pairs_decrease :
    ¬∀ (text body : List Char) (b : Block), Block.find? text = some b →
      (body = [] ∨ ∃ branch ∈ b.branches, branch.body = body) →
        (matchedPairs (splice b body)).length < (matchedPairs text).length := by
  intro h
  have hb : Block.find? brokenMarkers = some brokenBlock := by decide +kernel
  have hbody : ∃ branch ∈ brokenBlock.branches, branch.body = "f:b][i".toList :=
    ⟨_, List.mem_cons_self, rfl⟩
  have hfewer := h brokenMarkers _ brokenBlock hb (.inr hbody)
  exact absurd hfewer (by decide +kernel)

end RecordTemplate.Render
