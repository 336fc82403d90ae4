/-
  RecordTemplate.Proofs.Conditional.Spelling

  How markers are spelled.  A marker is read from its spelling whatever follows (`run_of_spelled`),
  and nothing else is read as a marker (`spelled_of_run`), so that a marker that has been found
  is found again wherever its text stands.
-/

import RecordTemplate.Template.Marker

namespace RecordTemplate.Template.Marker

open RecordTemplate.Text

/-! ## Conditions in markers -/

theorem argument?_append {c : List Char} (h : c ≠ [] ∧ ']' ∉ c) (s : List Char) :
    argument? (c ++ ']' :: s) = some (c, s) := by
  -- the condition goes as far as the first bracket
  have hp : ∀ a ∈ c, (decide (a ≠ ']')) = true := by
    rintro a ha
    exact decide_eq_true fun hc => h.2 (hc ▸ ha)
  have ht : (c ++ ']' :: s).takeWhile (· ≠ ']') = c := by
    rw [List.takeWhile_append_of_pos hp, List.takeWhile_cons_of_neg (by simp), List.append_nil]
  have hd : (c ++ ']' :: s).dropWhile (· ≠ ']') = ']' :: s := by
    rw [List.dropWhile_append_of_pos hp, List.dropWhile_cons_of_neg (by simp)]
  obtain ⟨d, ds, rfl⟩ := List.exists_cons_of_ne_nil h.1
  rw [argument?, ht, hd]

theorem argument?_spec {s c rest : List Char} (h : argument? s = some (c, rest)) :
    c ≠ [] ∧ ']' ∉ c := by
  unfold argument? at h
  split at h
  · next d ds e u ht hd =>
    cases h
    refine ⟨List.cons_ne_nil _ _, fun hmem => ?_⟩
    rw [← ht] at hmem
    simpa using List.all_eq_true.1 List.all_takeWhile _ hmem
  · cases h

theorem withArgument?_append {start : List Char} {make : List Char → Marker} {c : List Char}
    (h : c ≠ [] ∧ ']' ∉ c) (s : List Char) :
    withArgument? start make (c ++ ']' :: s) = some ⟨make c, start ++ c ++ [']'], s⟩ := by
  rw [withArgument?, argument?_append h, Option.map_some]

theorem withArgument?_eq_some {start s : List Char} {make : List Char → Marker}
    {r : Reading Marker} (h : withArgument? start make s = some r) :
    ∃ c, (c ≠ [] ∧ ']' ∉ c) ∧ r.item = make c ∧ r.text = start ++ c ++ [']'] := by
  obtain ⟨⟨c, rest⟩, hc, rfl⟩ := Option.map_eq_some_iff.1 h
  exact ⟨c, argument?_spec hc, rfl, rfl⟩

/-- One white space character at most stands between `else` and `if`. -/
def IsGap (g : List Char) : Prop := g = [] ∨ ∃ x, isSpace x = true ∧ g = [x]

theorem isGap_gap (s : List Char) : IsGap (gap s).1 := by
  cases s with
  | nil => exact .inl rfl
  | cons c s =>
    by_cases h : isSpace c = true
    · exact .inr ⟨c, h, by simp [gap, h]⟩
    · exact .inl (by simp [gap, h])

theorem gap_append {g : List Char} (h : IsGap g) (s : List Char) :
    gap (g ++ (ifWord ++ s)) = (g, ifWord ++ s) := by
  rcases h with rfl | ⟨x, hx, rfl⟩
  · rfl
  · simp [gap, hx]

/-! ## Spellings -/

/-- The texts of a marker. -/
inductive Spelled : Marker → List Char → Prop where
  | ifOpen {c : List Char} (h : c ≠ [] ∧ ']' ∉ c) :
      Spelled (.ifOpen c) (ifStart ++ c ++ [']'])
  | elseIf {g c : List Char} (hg : IsGap g) (h : c ≠ [] ∧ ']' ∉ c) :
      Spelled (.elseIf c) (elseStart ++ g ++ ifWord ++ c ++ [']'])
  | otherwise : Spelled .otherwise (elseStart ++ [']'])
  | close : Spelled .close closeMark

/-- A marker is read from its spelling, whatever follows. -/
theorem run_of_spelled {m : Marker} {t : List Char} (h : Spelled m t) (s : List Char) :
    run (t ++ s) = some ⟨m, t, s⟩ := by
  cases h with
  | @ifOpen c h =>
    have hs : after? ifStart (ifStart ++ c ++ [']'] ++ s) = some (c ++ ']' :: s) :=
      after?_eq_some_iff.2 (by simp)
    rw [run, hs]
    exact withArgument?_append h s
  | @elseIf g c hg h =>
    have hi : after? ifStart (elseStart ++ g ++ ifWord ++ c ++ [']'] ++ s) = none := rfl
    have hs : after? elseStart (elseStart ++ g ++ ifWord ++ c ++ [']'] ++ s) =
        some (g ++ (ifWord ++ (c ++ ']' :: s))) :=
      after?_eq_some_iff.2 (by simp)
    have hw : after? ifWord (ifWord ++ (c ++ ']' :: s)) = some (c ++ ']' :: s) :=
      after?_eq_some_iff.2 rfl
    -- `[else` is not closed here, so it is no `[else]`
    have hc : after? [']'] (g ++ (ifWord ++ (c ++ ']' :: s))) = none := by
      rcases hg with rfl | ⟨x, hx, rfl⟩
      · rfl
      · have hne : ']' ≠ x := by
          rintro rfl
          exact absurd hx (by decide)
        simp [after?, hne]
    rw [run, hi, hs]
    simp only [afterElse?, hc, gap_append hg, hw]
    exact withArgument?_append h s
  | otherwise => rfl
  | close => rfl

/-- What is read as a marker is a spelling of it. -/
theorem spelled_of_run {s : List Char} {r : Reading Marker} (h : run s = some r) :
    Spelled r.item r.text := by
  unfold run at h
  split at h
  · obtain ⟨c, hc, hitem, htext⟩ := withArgument?_eq_some h
    rw [hitem, htext]
    exact .ifOpen hc
  · split at h
    · next t ht =>
      unfold afterElse? at h
      split at h
      · cases h
        exact .otherwise
      · split at h
        · obtain ⟨c, hc, hitem, htext⟩ := withArgument?_eq_some h
          rw [hitem, htext]
          exact .elseIf (isGap_gap t) hc
        · cases h
    · obtain ⟨rest, -, rfl⟩ := Option.map_eq_some_iff.1 h
      exact .close

/-- The opening marker of a block has six characters at least. -/
theorem Spelled.six_le_length {c t : List Char} (h : Spelled (.ifOpen c) t) : 6 ≤ t.length := by
  cases h with
  | ifOpen hc =>
    have hpos := List.length_pos_iff.2 hc.1
    simp [ifStart]
    omega

/-- The closing marker of a block has five characters. -/
theorem Spelled.length_close {t : List Char} (h : Spelled .close t) : t.length = 5 := by
  cases h
  rfl

end RecordTemplate.Template.Marker
