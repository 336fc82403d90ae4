/-
  RecordTemplate.Proofs.Conditional.Markers

  The markers of a text with their places in a template (`markersFrom`).  What is told of them
  comes from one description of how they are found, `MarkersOf`: each is spelled at its place,
  and nothing begins in the text that leads to it.

  Markers follow each other without overlap (`MarkersOf.sorted`), and a text that is cut at the
  end of a marker or at the beginning of one has on each side the markers that stood there
  (`MarkersOf.after`, `MarkersOf.upTo`).
-/

import RecordTemplate.Proofs.Template.Absence

namespace RecordTemplate.Template

/-! ## Pieces of a text -/

/-- The piece of a text between two places. -/
def piece (text : List Char) (start stop : Nat) : List Char :=
  (text.drop start).take (stop - start)

section Piece

variable {text s rest : List Char} {a b c : Nat}

theorem piece_append (hab : a ≤ b) (hbc : b ≤ c) :
    piece text a b ++ piece text b c = piece text a c := by
  have hsum : c - a = (b - a) + (c - b) := by omega
  have hdrop : text.drop b = (text.drop a).drop (b - a) := by
    rw [List.drop_drop, Nat.add_sub_cancel' hab]
  rw [piece, piece, piece, hsum, List.take_add, hdrop]

theorem piece_of_drop (h : text.drop a = s ++ rest) : piece text a (a + s.length) = s := by
  rw [piece, h, Nat.add_sub_cancel_left, List.take_left]

theorem drop_of_drop (h : text.drop a = s ++ rest) : text.drop (a + s.length) = rest := by
  rw [← List.drop_drop, h, List.drop_left]

theorem piece_zero : piece text 0 a = text.take a := by
  rw [piece, List.drop_zero, Nat.sub_zero]

end Piece

/-! ## Markers at their places -/

/-- The tokens of markers found one after the other from a place on. -/
def placed (p : Nat) (ms : List (Found Marker)) : List Token :=
  Token.ofScan TokenKind.marker false [] p ms

@[simp] theorem placed_nil (p : Nat) : placed p [] = [] := rfl

@[simp] theorem placed_cons (p : Nat) (m : Found Marker) (ms : List (Found Marker)) :
    placed p (m :: ms) = ⟨.marker m.item, m.text, p + m.lead.length⟩ ::
      placed (p + m.lead.length + m.text.length) ms := by
  simp [placed, Token.ofScan]

/-- The markers of a text that begins at a place of a template. -/
def markersFrom (p : Nat) (s : List Char) : List Token := placed p (markerRule.scan s).found

theorem markerTokens_eq (text : List Char) : markerTokens text = markersFrom 0 text := by
  -- without the text between constructs the tail does not matter
  have htail (tail : List Char) (p : Nat) (ms : List (Found Marker)) :
      Token.ofScan TokenKind.marker false tail p ms = placed p ms := by
    induction ms generalizing p with
    | nil => rfl
    | cons m ms ih => rw [placed_cons, Token.ofScan, Token.ofText_false, List.nil_append, ih]
  exact htail _ 0 _

section Scanning

variable {lead t rest : List Char} {m : Marker}

theorem markersFrom_of_absent {s : List Char} (h : markerRule.Absent s) (p : Nat) :
    markersFrom p s = [] := by
  rw [markersFrom, h.scan_eq, placed_nil]

theorem markersFrom_clear (h : markerRule.ClearBefore rest lead) (p : Nat) :
    markersFrom p (lead ++ rest) = markersFrom (p + lead.length) rest := by
  rw [markersFrom, markersFrom, h.scan_append]
  obtain ⟨_ | ⟨f, fs⟩, tail⟩ := markerRule.scan rest
  · rfl
  · simp [Scan.prepend, Nat.add_assoc]

theorem markersFrom_spelled (ht : Marker.Spelled m t) (p : Nat) (rest : List Char) :
    markersFrom p (t ++ rest) = ⟨.marker m, t, p⟩ :: markersFrom (p + t.length) rest := by
  have hrun : markerRule.run (t ++ rest) = some ⟨m, t, rest⟩ := Marker.run_of_spelled ht rest
  rw [markersFrom, Recogniser.scan_of_run hrun, Scan.found_cons, placed_cons]
  rfl

/-- What begins nowhere in a piece begins nowhere in it when less follows. -/
theorem Recogniser.ClearBefore.of_append {α : Type} {rule : Recogniser α} {u v : List Char}
    (hrule : rule.Persists) (h : rule.ClearBefore (u ++ v) lead) : rule.ClearBefore u lead := by
  intro x hne hx
  cases hrun : rule.run (x ++ u) with
  | none => rfl
  | some r =>
    have hlonger := hrule (x ++ u) v (by rw [hrun]; rfl)
    rw [List.append_assoc, h x hne hx] at hlonger
    cases hlonger

theorem Recogniser.ClearBefore.absent {α : Type} {rule : Recogniser α} {v : List Char}
    (hrule : rule.Persists) (h : rule.ClearBefore v lead) : rule.Absent lead := by
  intro x hx
  by_cases hne : x = []
  · rw [hne, run_nil]
  · have := of_append (u := []) hrule h x hne hx
    rwa [List.append_nil] at this

end Scanning

/-! ## How markers are found -/

/-- The markers of a text that begins at a place of a template. -/
inductive MarkersOf : Nat → List Char → List Token → Prop where
  | absent {p : Nat} {s : List Char} (h : markerRule.Absent s) : MarkersOf p s []
  | marker {p : Nat} {lead t rest : List Char} {m : Marker} {ts : List Token}
      (hlead : markerRule.ClearBefore (t ++ rest) lead) (ht : Marker.Spelled m t)
      (hts : MarkersOf (p + lead.length + t.length) rest ts) :
      MarkersOf p (lead ++ (t ++ rest)) (⟨.marker m, t, p + lead.length⟩ :: ts)

theorem Marker.Spelled.ne_nil {m : Marker} {t : List Char} (h : Spelled m t) : t ≠ [] := by
  have hrun : markerRule.run (t ++ []) = some ⟨m, t, []⟩ := Marker.run_of_spelled h []
  exact (markerRule.splits hrun).1

namespace MarkersOf

variable {p : Nat} {s : List Char} {ts : List Token}

/-- There is one way to find markers. -/
theorem markersFrom_eq (h : MarkersOf p s ts) : markersFrom p s = ts := by
  induction h with
  | absent h => exact markersFrom_of_absent h _
  | marker hlead ht _ ih => rw [markersFrom_clear hlead, markersFrom_spelled ht, ih]

theorem of_markersFrom (p : Nat) (s : List Char) : MarkersOf p s (markersFrom p s) := by
  -- the text that is left after a marker is shorter
  induction hn : s.length using Nat.strong_induction_on generalizing p s with
  | _ n ih =>
    rcases markerRule.scan_cases s with ⟨hscan, -⟩ | ⟨lead, t, r, rfl, hnone, hrun, -⟩
    · have habsent : markerRule.Absent s := Recogniser.absent_iff.2 (by rw [hscan])
      rw [markersFrom_of_absent habsent]
      exact .absent habsent
    · obtain ⟨-, rfl⟩ := markerRule.splits hrun
      have ht : Marker.Spelled r.item r.text := Marker.spelled_of_run hrun
      have hlead : markerRule.ClearBefore (r.text ++ r.rest) lead := by
        rintro x hne ⟨w, rfl⟩
        have hplace : w.length < (w ++ x).length := by
          have := List.length_pos_iff.2 hne
          rw [List.length_append]
          omega
        have := hnone w.length hplace
        rwa [List.append_assoc, List.drop_left] at this
      have hshorter : r.rest.length < n := by
        have := markerRule.shorter hrun
        rw [List.length_append] at hn
        omega
      rw [markersFrom_clear hlead, markersFrom_spelled ht]
      exact .marker hlead ht (ih _ hshorter _ _ rfl)

theorem of_markerTokens (text : List Char) : MarkersOf 0 text (markerTokens text) := by
  rw [markerTokens_eq]
  exact of_markersFrom 0 text

/-- Markers lie within the text, and each takes up some of it. -/
theorem bounds (h : MarkersOf p s ts) :
    ∀ t ∈ ts, p ≤ t.position ∧ t.position < t.stop ∧ t.stop ≤ p + s.length := by
  induction h with
  | absent => exact fun _ ht => absurd ht List.not_mem_nil
  | @marker p lead t rest m ts hlead ht _ ih =>
    have hpos := List.length_pos_iff.2 ht.ne_nil
    intro u hu
    simp only [List.length_append]
    rcases List.mem_cons.1 hu with rfl | hu
    · simp only [Token.stop]
      omega
    · have := ih u hu
      omega

/-- Markers follow each other. -/
theorem sorted (h : MarkersOf p s ts) : ts.Pairwise fun t u => t.stop ≤ u.position := by
  induction h with
  | absent => exact .nil
  | marker hlead ht hts ih => exact List.pairwise_cons.2 ⟨fun u hu => (hts.bounds u hu).1, ih⟩

/-- The text of a marker is the piece of the template at its place. -/
theorem value_eq {text : List Char} (h : MarkersOf p s ts) (hs : text.drop p = s) :
    ∀ t ∈ ts, t.value = piece text t.position t.stop := by
  induction h with
  | absent => exact fun _ ht => absurd ht List.not_mem_nil
  | @marker p lead t rest m ts hlead ht _ ih =>
    have hmarker := drop_of_drop hs
    intro u hu
    rcases List.mem_cons.1 hu with rfl | hu
    · exact (piece_of_drop hmarker).symm
    · exact ih (drop_of_drop hmarker) u hu

/-- A token that stands for a marker is spelled like it. -/
theorem spelled (h : MarkersOf p s ts) :
    ∀ t ∈ ts, ∃ m, t.kind = .marker m ∧ Marker.Spelled m t.value := by
  induction h with
  | absent => exact fun _ ht => absurd ht List.not_mem_nil
  | marker hlead ht _ ih =>
    intro u hu
    rcases List.mem_cons.1 hu with rfl | hu
    · exact ⟨_, rfl, ht⟩
    · exact ih u hu

/-- The markers behind a marker are those of the text behind it. -/
theorem after {text : List Char} {ts' : List Token} {d : Token} (h : MarkersOf p s (ts ++ d :: ts'))
    (hs : text.drop p = s) : MarkersOf d.stop (text.drop d.stop) ts' := by
  induction ts generalizing p s with
  | nil =>
    cases h with
    | marker hlead ht hts =>
      have hrest := drop_of_drop (drop_of_drop hs)
      show MarkersOf _ (text.drop _) ts'
      rwa [Token.stop, hrest]
  | cons u ts ih =>
    cases h with
    | marker hlead ht hts => exact ih hts (drop_of_drop (drop_of_drop hs))

/-- The markers before a marker are those of the text up to it. -/
theorem upTo {text : List Char} {ts' : List Token} {e : Token} (h : MarkersOf p s (ts ++ e :: ts'))
    (hs : text.drop p = s) : MarkersOf p (piece text p e.position) ts := by
  induction ts generalizing p s with
  | nil =>
    cases h with
    | marker hlead ht hts =>
      rw [piece_of_drop hs]
      exact .absent (hlead.absent persists_markerRule)
  | cons u ts ih =>
    cases h with
    | @marker _ lead t rest m _ hlead ht hts =>
      have hmarker := drop_of_drop hs
      have hrest := drop_of_drop hmarker
      -- the text up to the later marker goes through this one
      have hplace : p + lead.length + t.length ≤ e.position :=
        (hts.bounds e (by simp)).1
      have hcut : piece text p e.position =
          lead ++ (t ++ piece text (p + lead.length + t.length) e.position) := by
        rw [← piece_append (Nat.le_add_right p lead.length) (by omega),
          ← piece_append (Nat.le_add_right (p + lead.length) t.length) hplace,
          piece_of_drop hs, piece_of_drop hmarker]
      have hsplit : rest = piece text (p + lead.length + t.length) e.position ++
          rest.drop (e.position - (p + lead.length + t.length)) := by
        rw [piece, hrest, List.take_append_drop]
      rw [hsplit, ← List.append_assoc] at hlead
      rw [hcut]
      exact .marker (hlead.of_append persists_markerRule) ht (ih hts hrest)

end MarkersOf

/-- The markers of a text do not depend on its place. -/
theorem kind_markersFrom (p q : Nat) (s : List Char) :
    (markersFrom p s).map Token.kind = (markersFrom q s).map Token.kind := by
  have hplaced (p q : Nat) (ms : List (Found Marker)) :
      (placed p ms).map Token.kind = (placed q ms).map Token.kind := by
    induction ms generalizing p q with
    | nil => rfl
    | cons m ms ih => rw [placed_cons, placed_cons, List.map_cons, List.map_cons, ih]
  exact hplaced p q _

end RecordTemplate.Template
