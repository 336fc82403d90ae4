/-
  RecordTemplate.Proofs.Conditional.Blocks

  The blocks of a printed tree are found again.  Scanning the text of a tree gives the markers
  of the tree (`Tree.scan_text`), counting depth leads over a tree as a whole
  (`Tree.closing?_marks`), and the first block found is the first block of the tree with the
  bodies of its own branches (`Tree.find?_block`).
-/

import RecordTemplate.Proofs.Conditional.Spelling
import RecordTemplate.Proofs.Conditional.Tree
import RecordTemplate.Proofs.Scan
import RecordTemplate.Template.Block

namespace RecordTemplate.Template

open RecordTemplate.Text

/-! ## Markers read back -/

namespace Marker

theorem isGap_spaced (spaced : Bool) : IsGap (if spaced then [' '] else []) := by
  cases spaced with
  | false => exact .inl rfl
  | true => exact .inr ⟨' ', by decide, rfl⟩

/-- A marker is printed in one of its spellings. -/
theorem spelled_print (m : Marker) (spaced : Bool)
    (h : ∀ c, m.condition? = some c → c ≠ [] ∧ ']' ∉ c) : Spelled m (m.print spaced) := by
  cases m with
  | ifOpen c => exact .ifOpen (h c rfl)
  | elseIf c => exact .elseIf (isGap_spaced spaced) (h c rfl)
  | otherwise => exact .otherwise
  | close => exact .close

/-- A printed marker is read back. -/
theorem run_print (m : Marker) (spaced : Bool)
    (h : ∀ c, m.condition? = some c → c ≠ [] ∧ ']' ∉ c) (s : List Char) :
    run (m.print spaced ++ s) = some ⟨m, m.print spaced, s⟩ :=
  run_of_spelled (m.spelled_print spaced h) s

/-- A marker begins with a bracket. -/
theorem run_eq_none {c : Char} (h : c ≠ '[') (s : List Char) : run (c :: s) = none := by
  simp [run, after?, ifStart, elseStart, closeMark, h.symm]

end Marker

/-- A printed marker is the first thing found. -/
theorem scan_print (m : Marker) (spaced : Bool)
    (h : ∀ c, m.condition? = some c → c ≠ [] ∧ ']' ∉ c) (s : List Char) :
    markerRule.scan (m.print spaced ++ s) = (markerRule.scan s).cons m (m.print spaced) := by
  have hrun : markerRule.run (m.print spaced ++ s) = some ⟨m, m.print spaced, s⟩ :=
    Marker.run_print m spaced h s
  exact Recogniser.scan_of_run hrun

theorem scan_literal (l : Literal) (s : List Char) :
    markerRule.scan (l.1 ++ s) = (markerRule.scan s).prepend l.1 := by
  refine Recogniser.scan_append (.of_forall_mem fun c hc t => Marker.run_eq_none ?_ t) s
  rintro rfl
  exact l.2 hc

/-! ## The markers of a tree -/

mutual

/-- The scan of the text of a tree, given the scan of what follows it. -/
def Tree.marks : Tree → Scan Marker → Scan Marker
  | .nil, s => s
  | .literal l rest, s => (rest.marks s).prepend l.1
  | .block g body more rest, s =>
    (body.marks (more.marks ((rest.marks s).cons .close (Marker.close.print false)))).cons
      (.ifOpen g.1) ((Marker.ifOpen g.1).print false)

/-- The scan of the text of branches, given the scan of what follows them. -/
def Branches.marks : Branches → Scan Marker → Scan Marker
  | .nil, s => s
  | .elseIf spaced g body more, s =>
    (body.marks (more.marks s)).cons (.elseIf g.1) ((Marker.elseIf g.1).print spaced)
  | .otherwise body more, s =>
    (body.marks (more.marks s)).cons .otherwise (Marker.otherwise.print false)

end

mutual

/-- Scanning the text of a tree gives the markers of the tree. -/
theorem Tree.scan_text (t : Tree) (s : List Char) :
    markerRule.scan (t.text ++ s) = t.marks (markerRule.scan s) := by
  match t with
  | .nil => rfl
  | .literal l rest =>
    rw [Tree.text, List.append_assoc, scan_literal, rest.scan_text s, Tree.marks]
  | .block g body more rest =>
    simp only [Tree.text, List.append_assoc]
    -- the opening marker, the body, the later branches, the closing marker and the rest
    rw [scan_print _ _ (by simpa [Marker.condition?] using g.2), body.scan_text,
      more.scan_text, scan_print _ _ (by simp [Marker.condition?]), rest.scan_text, Tree.marks]

theorem Branches.scan_text (b : Branches) (s : List Char) :
    markerRule.scan (b.text ++ s) = b.marks (markerRule.scan s) := by
  match b with
  | .nil => rfl
  | .elseIf spaced g body more =>
    simp only [Branches.text, List.append_assoc]
    rw [scan_print _ _ (by simpa [Marker.condition?] using g.2), body.scan_text,
      more.scan_text, Branches.marks]
  | .otherwise body more =>
    simp only [Branches.text, List.append_assoc]
    rw [scan_print _ _ (by simp [Marker.condition?]), body.scan_text, more.scan_text,
      Branches.marks]

end

mutual

/-- What follows a tree keeps its markers and its tail. -/
theorem Tree.marks_tail (t : Tree) {s : Scan Marker} (h : s.found ≠ []) :
    (t.marks s).found ≠ [] ∧ (t.marks s).tail = s.tail := by
  match t with
  | .nil => exact ⟨h, rfl⟩
  | .literal l rest =>
    obtain ⟨hf, ht⟩ := rest.marks_tail h
    exact ⟨by simpa [Tree.marks, Scan.found_prepend_eq_nil] using hf,
      by rw [Tree.marks, Scan.tail_prepend hf, ht]⟩
  | .block g body more rest =>
    obtain ⟨-, hr⟩ := rest.marks_tail h
    obtain ⟨hm, hmt⟩ := more.marks_tail
      (s := (rest.marks s).cons .close (Marker.close.print false)) (by simp)
    obtain ⟨-, hb⟩ := body.marks_tail hm
    exact ⟨by simp [Tree.marks], by simp [Tree.marks, hb, hmt, hr]⟩

theorem Branches.marks_tail (b : Branches) {s : Scan Marker} (h : s.found ≠ []) :
    (b.marks s).found ≠ [] ∧ (b.marks s).tail = s.tail := by
  match b with
  | .nil => exact ⟨h, rfl⟩
  | .elseIf spaced g body more =>
    obtain ⟨hm, hmt⟩ := more.marks_tail h
    exact ⟨by simp [Branches.marks], by simp [Branches.marks, (body.marks_tail hm).2, hmt]⟩
  | .otherwise body more =>
    obtain ⟨hm, hmt⟩ := more.marks_tail h
    exact ⟨by simp [Branches.marks], by simp [Branches.marks, (body.marks_tail hm).2, hmt]⟩

end

/-! ## The end of a block -/

/-- Whether a marker separates two branches. -/
def Marker.separates : Marker → Bool
  | .elseIf _ | .otherwise => true
  | .ifOpen _ | .close => false

namespace Block

theorem map_after_map_after (a b : List Char) (c : Option Closing) :
    (c.map (·.after b)).map (·.after a) = c.map (·.after (a ++ b)) := by
  cases c <;> simp [Closing.after]

section Step

variable (depth start : Nat) (text : List Char) (s : Scan Marker)

theorem closing?_ifOpen (c : List Char) :
    closing? depth start (s.cons (.ifOpen c) text).found =
      (closing? (depth + 1) (start + text.length) s.found).map (·.after text) := rfl

theorem closing?_close_succ :
    closing? (depth + 1) start (s.cons .close text).found =
      (closing? depth (start + text.length) s.found).map (·.after text) := rfl

theorem closing?_close_zero :
    closing? 0 start (s.cons .close text).found =
      some ⟨[], [], start + text.length, s.found⟩ := rfl

theorem closing?_separator_succ {m : Marker} (hm : m.separates = true) :
    closing? (depth + 1) start (s.cons m text).found =
      (closing? (depth + 1) (start + text.length) s.found).map (·.after text) := by
  cases m with
  | elseIf c => rfl
  | otherwise => rfl
  | ifOpen c => cases hm
  | close => cases hm

theorem closing?_separator_zero {m : Marker} (hm : m.separates = true) :
    closing? 0 start (s.cons m text).found =
      (closing? 0 (start + text.length) s.found).map fun c =>
        { c with body := [], branches := ⟨m.condition?, c.body, start⟩ :: c.branches } := by
  cases m with
  | elseIf c => rfl
  | otherwise => rfl
  | ifOpen c => cases hm
  | close => cases hm

end Step

/-- A piece in front of the markers that follow belongs to the body that is being read. -/
theorem closing?_prepend (depth start : Nat) (piece : List Char) (s : Scan Marker) :
    closing? depth start (s.prepend piece).found =
      (closing? depth (start + piece.length) s.found).map (·.after piece) := by
  obtain ⟨_ | ⟨m, rest⟩, tail⟩ := s
  · rfl
  · obtain ⟨lead, item, text⟩ := m
    cases item <;> cases depth <;>
      simp [Scan.prepend, closing?, Closing.after, Nat.add_assoc, Function.comp_def]

end Block

mutual

/-- Inside an open block the markers of a tree are balanced: the tree as a whole belongs to the
    body that is being read, at any depth. -/
theorem Tree.closing?_marks (t : Tree) (depth start : Nat) (s : Scan Marker) :
    Block.closing? depth start (t.marks s).found =
      (Block.closing? depth (start + t.text.length) s.found).map (·.after t.text) := by
  match t with
  | .nil => simp [Tree.marks, Tree.text, Block.Closing.after]
  | .literal l rest =>
    rw [Tree.marks, Block.closing?_prepend, rest.closing?_marks, Block.map_after_map_after,
      Tree.text, List.length_append, Nat.add_assoc]
  | .block g body more rest =>
    -- one level down at the opening marker, and up again at the closing one
    rw [Tree.marks, Block.closing?_ifOpen, body.closing?_marks, more.closing?_marks,
      Block.closing?_close_succ, rest.closing?_marks]
    simp only [Block.map_after_map_after, Tree.text, List.length_append, Nat.add_assoc]

/-- Separators inside a nested block do not count. -/
theorem Branches.closing?_marks (b : Branches) (depth start : Nat) (s : Scan Marker) :
    Block.closing? (depth + 1) start (b.marks s).found =
      (Block.closing? (depth + 1) (start + b.text.length) s.found).map (·.after b.text) := by
  match b with
  | .nil => simp [Branches.marks, Branches.text, Block.Closing.after]
  | .elseIf spaced g body more =>
    rw [Branches.marks, Block.closing?_separator_succ _ _ _ _ rfl, body.closing?_marks,
      more.closing?_marks]
    simp only [Block.map_after_map_after, Branches.text, List.length_append, Nat.add_assoc]
  | .otherwise body more =>
    rw [Branches.marks, Block.closing?_separator_succ _ _ _ _ rfl, body.closing?_marks,
      more.closing?_marks]
    simp only [Block.map_after_map_after, Branches.text, List.length_append, Nat.add_assoc]

end

/-- Conditions and bodies of later branches, as the branches of a block have them. -/
def Branches.list : Branches → List (Option (List Char) × List Char)
  | .nil => []
  | .elseIf _ g body more => (some g.1, body.text) :: more.list
  | .otherwise body more => (none, body.text) :: more.list

/-- The condition and the body of a branch, without its place. -/
def Branch.content (b : Branch) : Option (List Char) × List Char := (b.condition, b.body)

/-- At the top of an open block the separators of its branches count, up to the marker that
    closes it. -/
theorem Branches.closing?_eq_some (b : Branches) (start : Nat) (s : Scan Marker) :
    ∃ c, Block.closing? 0 start
        (b.marks (s.cons .close (Marker.close.print false))).found = some c ∧
      c.body = [] ∧ c.branches.map Branch.content = b.list ∧ c.later = s.found := by
  match b with
  | .nil => exact ⟨_, Block.closing?_close_zero _ _ _, rfl, rfl, rfl⟩
  | .elseIf spaced g body more =>
    obtain ⟨c, hc, hb, hl, hs⟩ := more.closing?_eq_some
      (start + ((Marker.elseIf g.1).print spaced).length + body.text.length) s
    rw [Branches.marks, Block.closing?_separator_zero _ _ _ rfl, body.closing?_marks, hc]
    refine ⟨_, rfl, rfl, ?_, hs⟩
    simp [Branch.content, Block.Closing.after, hb, ← hl, Branches.list, Marker.condition?]
  | .otherwise body more =>
    obtain ⟨c, hc, hb, hl, hs⟩ := more.closing?_eq_some
      (start + (Marker.otherwise.print false).length + body.text.length) s
    rw [Branches.marks, Block.closing?_separator_zero _ _ _ rfl, body.closing?_marks, hc]
    refine ⟨_, rfl, rfl, ?_, hs⟩
    simp [Branch.content, Block.Closing.after, hb, ← hl, Branches.list, Marker.condition?]

/-! ## The first block -/

/-- A piece in front of the markers stands before the first block. -/
theorem Block.first?_prepend (before piece : List Char) (s : Scan Marker) :
    Block.first? (s.prepend piece).tail before (s.prepend piece).found =
      Block.first? s.tail (before ++ piece) s.found := by
  obtain ⟨_ | ⟨m, rest⟩, tail⟩ := s
  · rfl
  · simp [Scan.prepend, Block.first?]

/-- There is no block in a literal. -/
theorem find?_literal (l : Literal) : Block.find? l.1 = none := by
  have h := scan_literal l []
  rw [List.append_nil] at h
  rw [Block.find?, h, Block.first?_prepend, Recogniser.scan_nil]
  rfl

/-- The first block of a tree is found with the conditions and bodies of its branches. -/
theorem Tree.find?_block (l : Literal) (g : Guard) (body : Tree) (more : Branches)
    (rest : Tree) :
    ∃ b, Block.find? (l.1 ++ (Tree.block g body more rest).text) = some b ∧
      b.before = l.1 ∧ b.after = rest.text ∧
      b.branches.map Branch.content = (some g.1, body.text) :: more.list := by
  -- the markers of the text are those of the tree, behind the literal
  have hscan := (Tree.block g body more rest).scan_text []
  rw [List.append_nil, Recogniser.scan_nil] at hscan
  have hrest := rest.scan_text []
  rw [List.append_nil, Recogniser.scan_nil] at hrest
  rw [Block.find?, scan_literal, Block.first?_prepend, hscan, Tree.marks, Scan.found_cons,
    Block.first?]
  simp only [List.nil_append, List.append_nil, body.closing?_marks]
  obtain ⟨c, hc, hb, hl, hs⟩ := more.closing?_eq_some
    (l.1.length + ((Marker.ifOpen g.1).print false).length + body.text.length)
    (rest.marks ⟨[], []⟩)
  -- what follows the block is the text of the markers that are left
  obtain ⟨hm, hmt⟩ := more.marks_tail
    (s := (rest.marks ⟨[], []⟩).cons .close (Marker.close.print false)) (by simp)
  rw [hc]
  refine ⟨_, rfl, rfl, ?_, ?_⟩
  · simp only [Block.Closing.after, Scan.tail_cons, (body.marks_tail hm).2, hmt, hs]
    rw [← hrest]
    exact Recogniser.text_scan markerRule rest.text
  · simp [Branch.content, Block.Closing.after, hb, ← hl]

end RecordTemplate.Template
