/-
  RecordTemplate.Proofs.Template.Split

  A block takes a text apart: what stands before it, the block itself and what stands after it
  make up the text again, and the bodies of its branches are pieces of the block
  (`Block.find?_split`).  So a text in which a block is replaced by one of its bodies is the
  text with something deleted (`splice_sublist`), and so is what a reduction comes to
  (`Answering.reduceBlocks`).
-/

import RecordTemplate.Proofs.Scan
import RecordTemplate.Render.Reduction

namespace RecordTemplate.Template

/-- The text of what was found, with the text before it. -/
def Found.whole {α : Type} (f : Found α) : List Char := f.lead ++ f.text

theorem Scan.text_eq {α : Type} (s : Scan α) : s.text = s.found.flatMap Found.whole ++ s.tail := rfl

/-- What a scan finds is a piece of the text. -/
theorem Recogniser.sublist_of_mem_found {α : Type} {rule : Recogniser α} {text : List Char}
    {f : Found α} (h : f ∈ (rule.scan text).found) : f.text.Sublist text := by
  have hwhole : f.whole.Sublist ((rule.scan text).found.flatMap Found.whole) :=
    List.sublist_flatten_of_mem (List.mem_map_of_mem h)
  have htext := (hwhole.trans (List.sublist_append_left _ (rule.scan text).tail))
  rw [← Scan.text_eq, text_scan] at htext
  exact (List.sublist_append_right f.lead f.text).trans htext

namespace Block

/-- The markers up to the end of a block contain the bodies of its branches. -/
theorem closing?_split {depth start : Nat} {ms : List (Found Marker)} {c : Closing}
    (h : closing? depth start ms = some c) :
    ∃ u, ms.flatMap Found.whole = u ++ c.later.flatMap Found.whole ∧ c.body.Sublist u ∧
      ∀ b ∈ c.branches, b.body.Sublist u := by
  induction ms generalizing depth start c with
  | nil => cases h
  | cons m ms ih =>
    -- a marker that belongs to the body that is being read
    have inside {d s : Nat}
        (h : (closing? d s ms).map (·.after (m.lead ++ m.text)) = some c) :
        ∃ u, (m :: ms).flatMap Found.whole = u ++ c.later.flatMap Found.whole ∧
          c.body.Sublist u ∧ ∀ b ∈ c.branches, b.body.Sublist u := by
      obtain ⟨c', hc, rfl⟩ := Option.map_eq_some_iff.1 h
      obtain ⟨u, hu, hbody, hbranches⟩ := ih hc
      refine ⟨m.whole ++ u, by simp [hu, Closing.after], ?_, fun b hb => ?_⟩
      · exact (List.Sublist.refl m.whole).append hbody
      · exact (hbranches b hb).trans (List.sublist_append_right _ _)
    -- a marker that ends a branch: its body goes to the branches, and a new body begins
    have separator {s : Nat} {condition : Option (List Char)} {place : Nat}
        (h : ((closing? 0 s ms).map fun c =>
          { c with body := m.lead, branches := ⟨condition, c.body, place⟩ :: c.branches }) =
            some c) :
        ∃ u, (m :: ms).flatMap Found.whole = u ++ c.later.flatMap Found.whole ∧
          c.body.Sublist u ∧ ∀ b ∈ c.branches, b.body.Sublist u := by
      obtain ⟨c', hc, rfl⟩ := Option.map_eq_some_iff.1 h
      obtain ⟨u, hu, hbody, hbranches⟩ := ih hc
      refine ⟨m.whole ++ u, by simp [hu], ?_, fun b hb => ?_⟩
      · exact (List.sublist_append_left m.lead m.text).trans (List.sublist_append_left _ _)
      · rcases List.mem_cons.1 hb with rfl | hb
        · exact hbody.trans (List.sublist_append_right _ _)
        · exact (hbranches b hb).trans (List.sublist_append_right _ _)
    obtain ⟨lead, item, text⟩ := m
    cases item with
    | ifOpen condition => exact inside h
    | close =>
      cases depth with
      | zero =>
        cases h
        exact ⟨lead ++ text, by simp [Found.whole], List.sublist_append_left _ _, by simp⟩
      | succ depth => exact inside h
    | elseIf condition =>
      cases depth with
      | zero => exact separator h
      | succ depth => exact inside h
    | otherwise =>
      cases depth with
      | zero => exact separator h
      | succ depth => exact inside h

theorem first?_split {tail before : List Char} {ms : List (Found Marker)} {b : Block}
    (h : first? tail before ms = some b) :
    ∃ u, before ++ (ms.flatMap Found.whole ++ tail) = b.before ++ (u ++ b.after) ∧
      ∀ branch ∈ b.branches, branch.body.Sublist u := by
  induction ms generalizing before with
  | nil => cases h
  | cons m ms ih =>
    rw [first?] at h
    split at h
    · next b' hb =>
      cases h
      split at hb
      · next condition hm =>
        obtain ⟨c, hc, rfl⟩ := Option.map_eq_some_iff.1 hb
        obtain ⟨u, hu, hbody, hbranches⟩ := closing?_split hc
        -- the block begins with the marker itself; what leads to it stands before the block
        refine ⟨m.text ++ u, ?_, fun branch hbranch => ?_⟩
        · simp [Scan.text_eq, hu, Found.whole]
        · rcases List.mem_cons.1 hbranch with rfl | hbranch
          · exact hbody.trans (List.sublist_append_right _ _)
          · exact (hbranches branch hbranch).trans (List.sublist_append_right _ _)
      · cases hb
    · obtain ⟨u, hu, hbranches⟩ := ih h
      refine ⟨u, ?_, hbranches⟩
      rw [← hu]
      simp [Found.whole]

/-- A block with what stands before and after it is the whole text. -/
theorem find?_split {text : List Char} {b : Block} (h : find? text = some b) :
    ∃ u, text = b.before ++ (u ++ b.after) ∧ ∀ branch ∈ b.branches, branch.body.Sublist u := by
  obtain ⟨u, hu, hbranches⟩ := first?_split h
  refine ⟨u, ?_, hbranches⟩
  rw [← hu, List.nil_append, ← Scan.text_eq, Recogniser.text_scan]

end Block
end RecordTemplate.Template

namespace RecordTemplate.Render

open RecordTemplate.Template

/-- Replacing a block by nothing or by the body of a branch only deletes. -/
theorem splice_sublist {text body : List Char} {b : Block} (h : Block.find? text = some b)
    (hbody : body = [] ∨ ∃ branch ∈ b.branches, branch.body = body) :
    (splice b body).Sublist text := by
  obtain ⟨u, rfl, hbranches⟩ := Block.find?_split h
  have hu : body.Sublist u := by
    rcases hbody with rfl | ⟨branch, hbranch, rfl⟩
    · exact List.nil_sublist _
    · exact hbranches branch hbranch
  rw [splice, List.append_assoc]
  exact (List.Sublist.refl _).append (hu.append (List.Sublist.refl _))

/-! ## Reductions -/

section Equations

variable {m : Type → Type} [Monad m] {text : List Char}

/-- Without a block there is nothing to reduce. -/
theorem reduce_of_find?_eq_none (h : Block.find? text = none) (test : List Char → m Bool)
    (limit : Nat) : reduce test limit text = pure (text, true) := by
  unfold reduce
  rw [h]

theorem reduce_succ_of_some {b : Block} (h : Block.find? text = some b)
    (test : List Char → m Bool) (limit : Nat) :
    reduce test (limit + 1) text =
      chooseBody test b.branches >>= fun body => reduce test limit (splice b body) := by
  rw [reduce, h]

/-- The first marker that should have belonged to a block is noticed. -/
def noticeStray (notice : Event → m Unit) (text : List Char) : m Unit :=
  match strayMarker? text with
  | some marker => notice (.unbalancedMarker marker)
  | none => pure ()

/-- A reduction whose last step leaves no block ends with a look at the markers that are left. -/
theorem reduceBlocks_of_reduce [LawfulMonad m] {x : m (List Char)} {test : List Char → m Bool}
    {limit : Int} (h : reduce test limit.toNat text = x >>= fun reduced => pure (reduced, true))
    (notice : Event → m Unit) :
    reduceBlocks test notice limit text =
      x >>= fun reduced => noticeStray notice reduced >>= fun _ => pure reduced := by
  rw [reduceBlocks, h, bind_assoc]
  refine bind_congr fun reduced => ?_
  rw [pure_bind, noticeStray]
  dsimp only
  cases strayMarker? reduced with
  | some marker => rfl
  | none => exact (pure_bind () fun _ => (pure reduced : m (List Char))).symm

theorem reduceBlocks_of_find?_eq_none [LawfulMonad m] (h : Block.find? text = none)
    (test : List Char → m Bool) (notice : Event → m Unit) (limit : Int) :
    reduceBlocks test notice limit text = noticeStray notice text >>= fun _ => pure text := by
  have hdone : reduce test limit.toNat text =
      pure text >>= fun reduced => pure (reduced, true) := by
    rw [reduce_of_find?_eq_none h, pure_bind]
  rw [reduceBlocks_of_reduce hdone, pure_bind]

end Equations

variable {m : Type → Type} [Monad m]

/-- A way to say something of a step and that all its answers have a property, where the second of
    two steps need only be looked at for the answers of the first. -/
structure Following (P : ∀ α : Type, (α → Prop) → m α → Prop) : Prop where
  pure : ∀ {α : Type} {Q : α → Prop} {a : α}, Q a → P _ Q (pure a)
  bind : ∀ {α β : Type} {Q : α → Prop} {R : β → Prop} {x : m α} {f : α → m β},
    P _ Q x → (∀ a, Q a → P _ R (f a)) → P _ R (x >>= f)
  mono : ∀ {α : Type} {Q R : α → Prop} {x : m α}, P _ Q x → (∀ a, Q a → R a) → P _ R x

/-- What is chosen is the body of a branch, or nothing.  Only the conditions of the branches are
    tested. -/
theorem Following.chooseBody {P : ∀ α : Type, (α → Prop) → m α → Prop} (hP : Following P)
    {test : List Char → m Bool} {bs : List Branch}
    (ht : ∀ b ∈ bs, ∀ c, b.condition = some c → P _ (fun _ => True) (test c)) :
    P _ (fun body => body = [] ∨ ∃ b ∈ bs, b.body = body) (chooseBody test bs) := by
  induction bs with
  | nil => exact hP.pure (.inl rfl)
  | cons b bs ih =>
    have hhere : b.body = [] ∨ ∃ b' ∈ b :: bs, b'.body = b.body :=
      .inr ⟨b, List.mem_cons_self .., rfl⟩
    unfold Render.chooseBody
    split
    · exact hP.pure hhere
    · next c hc =>
      refine hP.bind (ht b (List.mem_cons_self ..) c hc) fun holds _ => ?_
      split
      · exact hP.pure hhere
      · have hrest := ih fun b' hb' => ht b' (List.mem_cons_of_mem _ hb')
        refine hP.mono hrest fun body h => h.imp_right fun ⟨b', hb', he⟩ => ?_
        exact ⟨b', List.mem_cons_of_mem _ hb', he⟩

/-- A way to say that all answers of a step have a property. -/
structure Answering (P : ∀ α : Type, (α → Prop) → m α → Prop) : Prop where
  pure : ∀ {α : Type} {Q : α → Prop} {a : α}, Q a → P _ Q (pure a)
  bind : ∀ {α β : Type} {Q : α → Prop} {R : β → Prop} {x : m α} {f : α → m β},
    P _ Q x → (∀ a, Q a → P _ R (f a)) → P _ R (x >>= f)
  mono : ∀ {α : Type} {Q R : α → Prop} {x : m α}, P _ Q x → (∀ a, Q a → R a) → P _ R x
  any : ∀ {α : Type} (x : m α), P _ (fun _ => True) x

namespace Answering

variable {P : ∀ α : Type, (α → Prop) → m α → Prop} {test : List Char → m Bool}

theorem following (hP : Answering P) : Following P := ⟨hP.pure, hP.bind, hP.mono⟩

theorem chooseBody (hP : Answering P) (bs : List Branch) :
    P _ (fun body => body = [] ∨ ∃ b ∈ bs, b.body = body) (chooseBody test bs) :=
  hP.following.chooseBody fun _ _ _ _ => hP.any _

/-- Reducing blocks only deletes. -/
theorem reduce (hP : Answering P) (limit : Nat) (text : List Char) :
    P _ (fun r => r.1.Sublist text) (reduce test limit text) := by
  induction limit generalizing text with
  | zero =>
    unfold Render.reduce
    split
    · exact hP.pure (List.Sublist.refl _)
    · exact hP.pure (List.Sublist.refl _)
  | succ limit ih =>
    unfold Render.reduce
    split
    · exact hP.pure (List.Sublist.refl _)
    · next b hb =>
      refine hP.bind (hP.chooseBody b.branches) fun body hbody => ?_
      exact hP.mono (ih (splice b body)) fun r hr => hr.trans (splice_sublist hb hbody)

theorem reduceBlocks (hP : Answering P) {notice : Event → m Unit} (limit : Int)
    (text : List Char) : P _ (fun r => r.Sublist text) (reduceBlocks test notice limit text) := by
  refine hP.bind (hP.reduce limit.toNat text) fun r hr => ?_
  split
  split
  · split
    · exact hP.bind (hP.any _) fun _ _ => hP.pure hr
    · exact hP.pure hr
  · exact hP.bind (hP.any _) fun _ _ => hP.pure hr

end Answering
end RecordTemplate.Render
