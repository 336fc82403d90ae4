/-
  RecordTemplate.Proofs.Conditional.Soundness

  What the check of a template says about its blocks.  The check counts depth over the markers of
  one text; a reduction looks for the marker that closes the first block, puts a body in its
  place and reads the new text again.

    * `Closes depth text` — the markers of the text close so many open blocks and are balanced
      otherwise, and their conditions can be read.  It holds of texts without faults
      (`closes_of_markerFaults`).
    * `find?_of_closes` — in a text that is balanced the first block is found, and the text in
      which one of its bodies stands for it is balanced again and shorter by the two markers of
      the block at least.
    * `Following.reduceBlocks_of_closes` — so a reduction that may go on long enough leaves no
      marker, whatever the results of the conditions are.
-/

import Mathlib.Data.List.Infix
import RecordTemplate.Proofs.Conditional.Blocks
import RecordTemplate.Proofs.Template.Absence
import RecordTemplate.Proofs.Template.Split
import RecordTemplate.Template.Lint

namespace RecordTemplate.Template

/-! ## Brackets outside markers -/

/-- The pieces of a text between its markers. -/
def betweenMarkers (text : List Char) : List (List Char) :=
  (markerRule.scan text).found.map Found.lead ++ [(markerRule.scan text).tail]

/-- Every bracket that opens in a piece begins the mark of a fallback that lies within it. -/
def OnlyFallbackMarks (piece : List Char) : Prop :=
  ∀ v, '[' :: v <:+ piece →
    FallbackForm.openMark <+: '[' :: v ∨ FallbackForm.closeMark <+: '[' :: v

theorem onlyFallbackMarks_iff {piece : List Char} :
    OnlyFallbackMarks piece ↔ ∀ t ∈ piece.tails, t.head? = some '[' →
      FallbackForm.openMark <+: t ∨ FallbackForm.closeMark <+: t := by
  constructor
  · intro h t ht hhead
    obtain ⟨v, rfl⟩ := List.head?_eq_some_iff.1 hhead
    exact h v ((List.mem_tails _ _).1 ht)
  · intro h v hv
    exact h _ ((List.mem_tails _ _).2 hv) rfl

instance : DecidablePred OnlyFallbackMarks := fun _ => decidable_of_iff' _ onlyFallbackMarks_iff

theorem run_openMark (s : List Char) : markerRule.run (FallbackForm.openMark ++ s) = none := rfl

theorem run_closeMark (s : List Char) : markerRule.run (FallbackForm.closeMark ++ s) = none := rfl

/-- The marks of fallbacks begin no marker, whatever follows them. -/
theorem OnlyFallbackMarks.quiet {piece : List Char} (h : OnlyFallbackMarks piece) :
    markerRule.Quiet piece := by
  intro t rest hne ht
  obtain ⟨c, t, rfl⟩ := List.exists_cons_of_ne_nil hne
  by_cases hc : c = '['
  · subst hc
    rcases h t ht with ⟨u, hu⟩ | ⟨u, hu⟩
    · rw [← hu, List.append_assoc, run_openMark]
    · rw [← hu, List.append_assoc, run_closeMark]
  · exact Marker.run_eq_none hc _

/-! ## Balanced texts -/

/-- Whether the condition of a marker, if it has one, can be read. -/
def Marker.CanBeRead (m : Marker) : Prop :=
  ∀ c, m.condition? = some c → (Condition.parse? c).isSome = true

/-- Texts that close so many open blocks and are balanced otherwise, with conditions that can be
    read. -/
inductive Closes : Nat → List Char → Prop where
  | quiet {u : List Char} (hu : markerRule.Quiet u) : Closes 0 u
  | ifOpen {d : Nat} {u c t s : List Char} (hu : markerRule.Quiet u)
      (ht : Marker.Spelled (.ifOpen c) t) (hc : (Marker.ifOpen c).CanBeRead)
      (hs : Closes (d + 1) s) : Closes d (u ++ (t ++ s))
  | close {d : Nat} {u t s : List Char} (hu : markerRule.Quiet u) (ht : Marker.Spelled .close t)
      (hs : Closes d s) : Closes (d + 1) (u ++ (t ++ s))
  | separator {d : Nat} {u t s : List Char} {m : Marker} (hu : markerRule.Quiet u)
      (hm : m.separates = true) (ht : Marker.Spelled m t) (hc : m.CanBeRead)
      (hs : Closes (d + 1) s) : Closes (d + 1) (u ++ (t ++ s))

namespace Closes

theorem prepend {d : Nat} {u s : List Char} (hu : markerRule.Quiet u) (h : Closes d s) :
    Closes d (u ++ s) := by
  cases h with
  | quiet hv => exact .quiet (hu.append hv)
  | ifOpen hv ht hc hs =>
    rw [← List.append_assoc]
    exact .ifOpen (hu.append hv) ht hc hs
  | close hv ht hs =>
    rw [← List.append_assoc]
    exact .close (hu.append hv) ht hs
  | separator hv hm ht hc hs =>
    rw [← List.append_assoc]
    exact .separator (hu.append hv) hm ht hc hs

/-- Behind a text that closes some blocks a balanced one changes nothing. -/
theorem append {d : Nat} {s s' : List Char} (h : Closes d s) (h' : Closes 0 s') :
    Closes d (s ++ s') := by
  induction h with
  | quiet hu => exact h'.prepend hu
  | ifOpen hu ht hc _ ih =>
    simp only [List.append_assoc]
    exact .ifOpen hu ht hc ih
  | close hu ht _ ih =>
    simp only [List.append_assoc]
    exact .close hu ht ih
  | separator hu hm ht hc _ ih =>
    simp only [List.append_assoc]
    exact .separator hu hm ht hc ih

end Closes

/-- A marker behind a quiet piece is found first. -/
theorem scan_spelled {u t : List Char} {m : Marker} (hu : markerRule.Quiet u)
    (ht : Marker.Spelled m t) (s : List Char) :
    markerRule.scan (u ++ (t ++ s)) = ((markerRule.scan s).cons m t).prepend u := by
  have hrun : markerRule.run (t ++ s) = some ⟨m, t, s⟩ := Marker.run_of_spelled ht s
  rw [Recogniser.scan_append hu, Recogniser.scan_of_run hrun]

theorem tail_scan_spelled {u t : List Char} {m : Marker} (hu : markerRule.Quiet u)
    (ht : Marker.Spelled m t) (s : List Char) :
    (markerRule.scan (u ++ (t ++ s))).tail = (markerRule.scan s).tail := by
  rw [scan_spelled hu ht, Scan.tail_prepend (List.cons_ne_nil _ _), Scan.tail_cons]

/-! ## Texts without faults -/

theorem canBeRead_of_conditionFault {m : Marker} {value : List Char} {position : Nat}
    (h : conditionFault ⟨.marker m, value, position⟩ = []) : m.CanBeRead := by
  intro c hc
  have hargument : Token.argument? ⟨.marker m, value, position⟩ = some c := hc
  rw [conditionFault, hargument] at h
  cases hparse : Condition.parse? c with
  | some _ => rfl
  | none => simp [hparse] at h

theorem markerFaultsFrom_separator {m : Marker} (hm : m.separates = true) (depth : Nat)
    (value : List Char) (position : Nat) (rest : List Token) :
    markerFaultsFrom depth (⟨.marker m, value, position⟩ :: rest) =
      (if depth = 0 then [.outsideBlock value position] else []) ++
        conditionFault ⟨.marker m, value, position⟩ ++ markerFaultsFrom depth rest := by
  cases m with
  | elseIf c => rfl
  | otherwise => rfl
  | ifOpen c => cases hm
  | close => cases hm

/-- A text whose markers have no faults closes the blocks that are open before it. -/
theorem closes_of_markerFaultsFrom {depth position : Nat} {text : List Char}
    (hquiet : ∀ piece ∈ betweenMarkers text, markerRule.Quiet piece)
    (hfaults : markerFaultsFrom depth (Token.ofScan TokenKind.marker false
      (markerRule.scan text).tail position (markerRule.scan text).found) = []) :
    Closes depth text := by
  -- the text that is left after a marker is shorter
  induction hn : text.length using Nat.strong_induction_on generalizing depth position text with
  | _ n ih =>
    rcases markerRule.scan_cases text with ⟨hscan, -⟩ | ⟨lead, t, r, rfl, -, hrun, hscan⟩
    · rw [betweenMarkers, hscan] at hquiet
      rw [hscan] at hfaults
      cases depth with
      | zero => exact .quiet (hquiet text (List.mem_singleton.2 rfl))
      | succ depth => cases hfaults
    · obtain ⟨-, rfl⟩ := markerRule.splits hrun
      have hspelled := Marker.spelled_of_run hrun
      have hshorter : r.rest.length < n := by
        have := markerRule.shorter hrun
        rw [List.length_append] at hn
        omega
      simp only [betweenMarkers, hscan, Scan.prepend, Scan.cons, List.append_nil, List.map_cons,
        List.cons_append, List.mem_cons] at hquiet
      have hlead : markerRule.Quiet lead := hquiet lead (.inl rfl)
      have hrest : ∀ piece ∈ betweenMarkers r.rest, markerRule.Quiet piece := fun piece h =>
        hquiet piece (.inr h)
      -- the faults of the text are those of its first marker and those of the rest
      simp only [hscan, Scan.prepend, Scan.cons, List.append_nil, Token.ofScan,
        Token.ofText_false, List.nil_append] at hfaults
      obtain ⟨item, own, rest⟩ := r
      -- a separator needs a block that is open
      have separator (hitem : item.separates = true) :
          Closes depth (lead ++ (own ++ rest)) := by
        rw [markerFaultsFrom_separator hitem] at hfaults
        obtain ⟨hhere, hlater⟩ := List.append_eq_nil_iff.1 hfaults
        obtain ⟨hinside, hc⟩ := List.append_eq_nil_iff.1 hhere
        cases depth with
        | zero => cases hinside
        | succ depth =>
          exact .separator hlead hitem hspelled (canBeRead_of_conditionFault hc)
            (ih _ hshorter hrest hlater rfl)
      cases item with
      | ifOpen c =>
        obtain ⟨hc, hlater⟩ := List.append_eq_nil_iff.1 hfaults
        exact .ifOpen hlead hspelled (canBeRead_of_conditionFault hc)
          (ih _ hshorter hrest hlater rfl)
      | close =>
        cases depth with
        | zero => cases hfaults
        | succ depth => exact .close hlead hspelled (ih _ hshorter hrest hfaults rfl)
      | elseIf c => exact separator rfl
      | otherwise => exact separator rfl

theorem closes_of_markerFaults {text : List Char}
    (hquiet : ∀ piece ∈ betweenMarkers text, markerRule.Quiet piece) (hfaults : markerFaults text = []) :
    Closes 0 text :=
  closes_of_markerFaultsFrom hquiet hfaults

/-! ## The first block of a balanced text -/

namespace Block

/-- What is left of an open block fits the text behind its opening marker: the bodies are balanced,
    the rest of the current one but for the blocks open in it, and none of them contains the
    marker that closes the block. -/
structure Closing.Fits (c : Closing) (depth : Nat) (text rest : List Char) : Prop where
  body : Closes depth c.body
  branches : ∀ b ∈ c.branches, Closes 0 b.body ∧
    ∀ condition, b.condition = some condition → (Condition.parse? condition).isSome = true
  later : Closes 0 rest
  length_body : c.body.length + 5 + rest.length ≤ text.length
  length_branches : ∀ b ∈ c.branches, b.body.length + 5 + rest.length ≤ text.length

/-- A marker that belongs to the body that is being read. -/
theorem Closing.Fits.after {c : Closing} {depth depth' : Nat} {text rest u t : List Char}
    (h : c.Fits depth text rest) (hbody : Closes depth' (u ++ (t ++ c.body))) :
    ((c.after t).after u).Fits depth' (u ++ (t ++ text)) rest where
  body := hbody
  branches := h.branches
  later := h.later
  length_body := by
    have := h.length_body
    simp only [Closing.after, List.length_append]
    omega
  length_branches b hb := by
    have := h.length_branches b hb
    simp only [List.length_append]
    omega

/-- In a text that closes one block more than are open in the branch the end of the block is
    found. -/
theorem closing?_of_closes {n : Nat} {text : List Char} (h : Closes n text) :
    ∀ depth start, n = depth + 1 →
      ∃ c, closing? depth start (markerRule.scan text).found = some c ∧
        c.Fits depth text (Scan.mk c.later (markerRule.scan text).tail).text := by
  induction h with
  | quiet hu =>
    intro depth start hdepth
    cases hdepth
  | @ifOpen d u g t s hu ht hc hs ih =>
    intro depth start hdepth
    obtain ⟨c, hclosing, hfits⟩ := ih (depth + 1) (start + u.length + t.length) (by omega)
    rw [scan_spelled hu ht, closing?_prepend, closing?_ifOpen, hclosing, ← scan_spelled hu ht,
      tail_scan_spelled hu ht]
    exact ⟨_, rfl, hfits.after (.ifOpen hu ht hc hfits.body)⟩
  | @close d u t s hu ht hs ih =>
    intro depth start hdepth
    cases hdepth
    rw [tail_scan_spelled hu ht, scan_spelled hu ht, closing?_prepend]
    cases d with
    | zero =>
      -- the marker closes the block itself
      have hrest : (markerRule.scan s).text = s := markerRule.text_scan s
      have hlength := ht.length_close
      refine ⟨_, rfl, ?_, ?_, ?_, ?_, ?_⟩
      · simpa [Closing.after] using Closes.quiet hu
      · exact fun b hb => absurd hb List.not_mem_nil
      · exact hrest.symm ▸ hs
      · show (u ++ []).length + 5 + (markerRule.scan s).text.length ≤ _
        rw [hrest]
        simp only [List.length_append, List.length_nil]
        omega
      · exact fun b hb => absurd hb List.not_mem_nil
    | succ d =>
      obtain ⟨c, hclosing, hfits⟩ := ih d (start + u.length + t.length) rfl
      rw [closing?_close_succ, hclosing]
      exact ⟨_, rfl, hfits.after (.close hu ht hfits.body)⟩
  | @separator d u t s m hu hm ht hc hs ih =>
    intro depth start hdepth
    cases hdepth
    obtain ⟨c, hclosing, hfits⟩ := ih d (start + u.length + t.length) rfl
    rw [tail_scan_spelled hu ht, scan_spelled hu ht, closing?_prepend]
    cases d with
    | zero =>
      -- the marker ends the current branch, and the body behind it goes to the next one
      rw [closing?_separator_zero _ _ _ hm, hclosing]
      have hbody := hfits.length_body
      have hempty : (u ++ ([] : List Char)).length = u.length := by simp
      have htotal : (u ++ (t ++ s)).length = u.length + (t.length + s.length) := by simp
      refine ⟨_, rfl, ?_, ?_, hfits.later, ?_, ?_⟩
      · simpa [Closing.after] using Closes.quiet hu
      · intro b hb
        rcases List.mem_cons.1 hb with rfl | hb
        · exact ⟨hfits.body, fun condition h => hc condition h⟩
        · exact hfits.branches b hb
      · show (u ++ []).length + 5 + (Scan.mk c.later _).text.length ≤ _
        omega
      · intro b hb
        rcases List.mem_cons.1 hb with rfl | hb
        · show c.body.length + 5 + (Scan.mk c.later _).text.length ≤ _
          omega
        · have := hfits.length_branches b hb
          show b.body.length + 5 + (Scan.mk c.later _).text.length ≤ _
          omega
    | succ d =>
      rw [closing?_separator_succ _ _ _ _ hm, hclosing]
      exact ⟨_, rfl, hfits.after (.separator hu hm ht hc hfits.body)⟩

end Block
end RecordTemplate.Template

namespace RecordTemplate.Render

open RecordTemplate.Template

/-- What a reduction needs of the first block of a text: the conditions of its branches can be
    read, and the text in which one of its bodies or nothing stands for it is balanced again. -/
structure Reducible (b : Block) (text : List Char) : Prop where
  conditions : ∀ branch ∈ b.branches, ∀ condition, branch.condition = some condition →
    (Condition.parse? condition).isSome = true
  splice : ∀ body, (body = [] ∨ ∃ branch ∈ b.branches, branch.body = body) →
    Closes 0 (splice b body) ∧ (Render.splice b body).length + 11 ≤ text.length

/-- A balanced text has no markers, or its first block can be reduced. -/
theorem find?_of_closes {text : List Char} (h : Closes 0 text) :
    markerRule.Quiet text ∨ ∃ b, Block.find? text = some b ∧ Reducible b text := by
  cases h with
  | quiet hu => exact .inl hu
  | @ifOpen _ u g t s hu ht hc hs =>
    obtain ⟨c, hclosing, hfits⟩ :=
      Block.closing?_of_closes hs 0 (u.length + t.length) rfl
    have hfind : Block.find? (u ++ (t ++ s)) = some
        ⟨u, ⟨some g, c.body, u.length⟩ :: c.branches, c.stop,
          (Scan.mk c.later (markerRule.scan s).tail).text⟩ := by
      rw [Block.find?, scan_spelled hu ht, Block.first?_prepend, Scan.found_cons, Block.first?]
      simp only [List.nil_append, List.append_nil, Scan.tail_cons, hclosing, Option.map_some]
    have hopen := ht.six_le_length
    have hbefore : Closes 0 u := .quiet hu
    refine .inr ⟨_, hfind, ?_, fun body hbody => ?_⟩
    · intro branch hbranch condition hcondition
      rcases List.mem_cons.1 hbranch with rfl | hbranch
      · exact hc condition hcondition
      · exact (hfits.branches branch hbranch).2 condition hcondition
    · -- a body that is put in place of the block is balanced, and shorter than the block
      have hfit : Closes 0 body ∧
          body.length + 5 + (Scan.mk c.later (markerRule.scan s).tail).text.length ≤ s.length := by
        rcases hbody with rfl | ⟨branch, hbranch, rfl⟩
        · have := hfits.length_body
          exact ⟨.quiet .nil, by rw [List.length_nil]; omega⟩
        · rcases List.mem_cons.1 hbranch with rfl | hbranch
          · exact ⟨hfits.body, hfits.length_body⟩
          · exact ⟨(hfits.branches branch hbranch).1, hfits.length_branches branch hbranch⟩
      obtain ⟨hbalanced, hlength⟩ := hfit
      refine ⟨(hbefore.append hbalanced).append hfits.later, ?_⟩
      simp only [splice, List.length_append]
      omega

/-! ## Reductions of balanced texts -/

namespace Following

variable {m : Type → Type} [Monad m] {P : ∀ α : Type, (α → Prop) → m α → Prop}
  {test : List Char → m Bool} {text : List Char}

/-- Only conditions that can be read are tested, whatever their results are, and no marker is left
    at the end. -/
theorem reduce_of_closes (hP : Following P)
    (ht : ∀ c, (Condition.parse? c).isSome = true → P _ (fun _ => True) (test c))
    (limit : Nat) (h : Closes 0 text) (hlimit : text.length ≤ 11 * limit) :
    P _ (fun r => markerRule.Quiet r.1 ∧ r.2 = true) (reduce test limit text) := by
  -- the text is balanced again after each step, and shorter by eleven characters at least
  induction limit generalizing text with
  | zero =>
    rcases find?_of_closes h with hquiet | ⟨b, -, hreducible⟩
    · rw [reduce_of_find?_eq_none (Block.find?_of_absent hquiet.absent)]
      exact hP.pure ⟨hquiet, rfl⟩
    · have := (hreducible.splice [] (.inl rfl)).2
      omega
  | succ limit ih =>
    rcases find?_of_closes h with hquiet | ⟨b, hb, hreducible⟩
    · rw [reduce_of_find?_eq_none (Block.find?_of_absent hquiet.absent)]
      exact hP.pure ⟨hquiet, rfl⟩
    · unfold reduce
      simp only [hb]
      refine hP.bind (hP.chooseBody fun branch hbranch c hc => ht c ?_) fun body hbody => ?_
      · exact hreducible.conditions branch hbranch c hc
      · obtain ⟨hbalanced, hlength⟩ := hreducible.splice body hbody
        exact ih hbalanced (by omega)

/-- Nothing that goes wrong is noticed. -/
theorem reduceBlocks_of_closes (hP : Following P)
    (ht : ∀ c, (Condition.parse? c).isSome = true → P _ (fun _ => True) (test c))
    (notice : Event → m Unit) {limit : Int} (h : Closes 0 text)
    (hlimit : (text.length : Int) ≤ 11 * limit) :
    P _ (fun reduced => markerRule.Quiet reduced) (reduceBlocks test notice limit text) := by
  have hsteps : text.length ≤ 11 * limit.toNat := by omega
  refine hP.bind (hP.reduce_of_closes ht limit.toNat h hsteps) fun r hr => ?_
  obtain ⟨reduced, done⟩ := r
  obtain ⟨hquiet, hdone⟩ := hr
  cases hdone
  -- there is no marker to be noticed
  simp only [if_true, strayMarker?_of_absent hquiet.absent]
  exact hP.pure hquiet

end Following
end RecordTemplate.Render
