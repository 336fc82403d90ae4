/-
  RecordTemplate.Proofs.Conditional.Fragments

  The markers of a fragment, which is read as a text of its own.

  A marker ends with the first closing bracket behind its beginning.  So behind a closing bracket
  markers are found whatever stands before it (`markersFrom_behind`), and what follows a fragment
  can only add markers behind those that it has by itself (`markersFrom_prefix`), although the one
  that follows them may begin inside the fragment.  A fragment behind a closing bracket therefore
  has no block if the text around it has none (`Block.find?_fragment`).
-/

import RecordTemplate.Proofs.Conditional.Seams

namespace RecordTemplate.Template

/-! ## Texts around a fragment -/

/-- Whether a marker begins a text is told by the text up to its first closing bracket. -/
theorem markerRule_run_eq_none {s : List Char} (hbracket : ']' ∈ s)
    (hnone : markerRule.run s = none) (v : List Char) : markerRule.run (s ++ v) = none := by
  cases hrun : markerRule.run (s ++ v) with
  | none => rfl
  | some r =>
    exfalso
    have hspelled : Marker.Spelled r.item r.text := Marker.spelled_of_run hrun
    obtain ⟨x, hx, hfree⟩ := hspelled.eq_append
    obtain ⟨a, b, rfl, ha⟩ := List.eq_append_cons_of_mem hbracket
    -- the marker ends with the bracket, which is in the text already
    have hsame : a ++ ']' :: (b ++ v) = x ++ ']' :: r.rest := by
      have hsplit := (markerRule.splits hrun).2
      rw [hx] at hsplit
      simpa using hsplit
    obtain ⟨rfl, -⟩ := eq_of_append_bracket ha hfree hsame
    have hagain : markerRule.run (r.text ++ b) = some ⟨r.item, r.text, b⟩ :=
      Marker.run_of_spelled hspelled b
    rw [hx, List.append_assoc, List.singleton_append, hnone] at hagain
    cases hagain

/-- What follows a text adds markers behind those that the text has by itself. -/
theorem markersFrom_prefix (p : Nat) (u v : List Char) :
    markersFrom p u <+: markersFrom p (u ++ v) := by
  have h := MarkersOf.of_markersFrom p u
  generalize markersFrom p u = ts at h
  induction h with
  | absent => exact List.nil_prefix
  | @marker p lead t rest m ts hlead ht _ ih =>
    -- nothing begins in the lead when more follows, because the marker has a bracket
    have hlead' : markerRule.ClearBefore (t ++ (rest ++ v)) lead := by
      intro x hne hx
      obtain ⟨w, rfl, -⟩ := ht.eq_append
      have hbracket : ']' ∈ x ++ (w ++ [']'] ++ rest) := by simp
      have := markerRule_run_eq_none hbracket (hlead x hne hx) v
      simpa only [List.append_assoc] using this
    rw [List.append_assoc, List.append_assoc, markersFrom_clear hlead', markersFrom_spelled ht]
    exact (List.prefix_cons_inj _).2 ih

/-- Behind any closing bracket the markers are found again. -/
theorem markersFrom_behind (p : Nat) (w rest : List Char) :
    markersFrom (p + (w ++ [']']).length) rest <:+ markersFrom p (w ++ [']'] ++ rest) := by
  induction hn : w.length using Nat.strong_induction_on generalizing p w with
  | _ n ih =>
    by_cases hmem : ']' ∈ w
    · -- the text behind the first bracket has the last one too
      obtain ⟨a, b, rfl, ha⟩ := List.eq_append_cons_of_mem hmem
      have hshorter : b.length < n := by
        simp only [List.length_append, List.length_cons] at hn
        omega
      have hfirst := markersFrom_suffix ha p (b ++ [']'] ++ rest)
      have hlast := ih b.length hshorter (p + (a ++ [']']).length) b rfl
      have hplace : p + (a ++ [']']).length + (b ++ [']']).length =
          p + (a ++ ']' :: b ++ [']']).length := by
        simp only [List.length_append, List.length_cons, List.length_nil]
        omega
      have htext : a ++ [']'] ++ (b ++ [']'] ++ rest) = a ++ ']' :: b ++ [']'] ++ rest := by simp
      rw [hplace] at hlast
      rw [htext] at hfirst
      exact hlast.trans hfirst
    · exact markersFrom_suffix hmem p rest

/-! ## Fragments -/

/-- A fragment behind a closing bracket has no markers of other roles than the text around it has,
    in the same order. -/
theorem roles_fragment (w u v : List Char) :
    (roles u).Sublist (roles (w ++ [']'] ++ (u ++ v))) := by
  have hfront := markersFrom_prefix (0 + (w ++ [']']).length) u v
  have hback := markersFrom_behind 0 w (u ++ v)
  have hroles := (hfront.sublist.trans hback.sublist).map Token.role
  rwa [map_role_markersFrom, map_role_markersFrom] at hroles

namespace Block

/-- A text has no block if its markers make no pair. -/
theorem find?_eq_none_iff {text : List Char} :
    find? text = none ↔ pairCount 0 (roles text) = 0 := by
  have hfound := foundIn_find? text
  rw [← length_matchedPairs, List.length_eq_zero_iff]
  generalize find? text = found at hfound
  cases found with
  | none => exact iff_of_true rfl hfound
  | some b =>
    obtain ⟨earlier, inside, later, o, c, hlies⟩ := hfound
    have hpairs : matchedPairs text ≠ [] := by
      rw [matchedPairs, hlies.pairs]
      simp
    exact iff_of_false (Option.some_ne_none b) hpairs

/-- A fragment behind a closing bracket has no block if the text around it has none. -/
theorem find?_fragment {w u v : List Char} (h : find? (w ++ [']'] ++ (u ++ v)) = none) :
    find? u = none := by
  rw [find?_eq_none_iff] at h ⊢
  have hle := pairCount_sublist (roles_fragment w u v) 0
  omega

end Block
end RecordTemplate.Template
