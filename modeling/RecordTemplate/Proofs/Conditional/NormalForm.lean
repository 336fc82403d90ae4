/-
  RecordTemplate.Proofs.Conditional.NormalForm

  Reducing the blocks of a text comes to an end, whatever the conditions come to.

  Every step makes the text shorter by the two markers of a block, so blocks can be reduced without
  a limit until none is left (`normalize`).  A reduction whose limit is large enough for the length
  of the text is the same as that, for all such limits (`reduceBlocks_normalizes`).
-/

import Mathlib.Logic.Relation
import RecordTemplate.Proofs.Conditional.Steps
import RecordTemplate.Proofs.Pass.Events

namespace RecordTemplate.Render

open RecordTemplate.Template

/-! ## Normal forms -/

/-- A text without blocks that a text comes to step by step. -/
structure NormalForm (text : List Char) where
  result : List Char
  reached : Relation.ReflTransGen Step text result
  noBlock : Block.find? result = none

/-- Steps only delete. -/
theorem sublist_of_steps {text t : List Char} (h : Relation.ReflTransGen Step text t) :
    t.Sublist text := by
  induction h with
  | refl => exact .refl text
  | tail _ hstep ih => exact hstep.sublist.trans ih

/-! ## Reducing without a limit -/

variable {m : Type → Type} [Monad m]

/-- The body that `chooseBody` chooses, with where it comes from. -/
def chooseAmong (test : List Char → m Bool) : (bs : List Branch) →
    m {body : List Char // body = [] ∨ ∃ branch ∈ bs, branch.body = body}
  | [] => pure ⟨[], .inl rfl⟩
  | b :: bs =>
    match b.condition with
    | none => pure ⟨b.body, .inr ⟨b, List.mem_cons_self, rfl⟩⟩
    | some c => do
      if ← test c then pure ⟨b.body, .inr ⟨b, List.mem_cons_self, rfl⟩⟩
      else
        let body ← chooseAmong test bs
        pure ⟨body.1, body.2.imp_right fun ⟨branch, hbranch, h⟩ =>
          ⟨branch, List.mem_cons_of_mem b hbranch, h⟩⟩

/-- Blocks reduced until none is left. -/
def normalize (test : List Char → m Bool) (text : List Char) : m (NormalForm text) :=
  match h : Block.find? text with
  | none => pure ⟨text, .refl, h⟩
  | some b => do
    let body ← chooseAmong test b.branches
    let n ← normalize test (splice b body.1)
    pure ⟨n.result, .head (.splice h body.2) n.reached, n.noBlock⟩
termination_by text.length
decreasing_by
  have := (Step.splice h body.2).shorter
  omega

variable [LawfulMonad m] {test : List Char → m Bool}

theorem chooseBody_eq_chooseAmong (bs : List Branch) :
    chooseBody test bs = chooseAmong test bs >>= fun body => pure body.1 := by
  induction bs with
  | nil => rw [chooseBody, chooseAmong, pure_bind]
  | cons b bs ih =>
    obtain ⟨_ | c, body, position⟩ := b
    · show pure body = pure _ >>= _
      rw [pure_bind]
    · rw [chooseBody, chooseAmong]
      simp only [bind_assoc]
      refine bind_congr fun holds => ?_
      cases holds with
      | true => simp
      | false => simp [ih]

/-- The text that reducing without a limit comes to. -/
def normalText (test : List Char → m Bool) (text : List Char) : m (List Char) :=
  normalize test text >>= fun n => pure n.result

theorem normalText_of_none {text : List Char} (h : Block.find? text = none) :
    normalText test text = pure text := by
  rw [normalText, normalize]
  split
  · rw [pure_bind]
  · next b hb =>
    rw [h] at hb
    cases hb

theorem normalText_of_some {text : List Char} {b : Block} (h : Block.find? text = some b) :
    normalText test text =
      chooseBody test b.branches >>= fun body => normalText test (splice b body) := by
  rw [normalText, normalize]
  split
  · next hnone =>
    rw [h] at hnone
    cases hnone
  · next b' hb =>
    rw [h] at hb
    cases hb
    simp only [chooseBody_eq_chooseAmong, normalText, bind_assoc, pure_bind]

/-- A limit that is large enough for the length of a text is not reached. -/
theorem reduce_eq_normalText {limit : Nat} {text : List Char} (h : text.length ≤ 11 * limit) :
    reduce test limit text = normalText test text >>= fun reduced => pure (reduced, true) := by
  induction limit generalizing text with
  | zero =>
    cases hb : Block.find? text with
    | none => rw [reduce_of_find?_eq_none hb, normalText_of_none hb, pure_bind]
    | some b =>
      -- a text with a block is not empty
      have hshorter := (Step.splice hb (.inl rfl)).shorter
      omega
  | succ limit ih =>
    cases hb : Block.find? text with
    | none => rw [reduce_of_find?_eq_none hb, normalText_of_none hb, pure_bind]
    | some b =>
      rw [reduce_succ_of_some hb, normalText_of_some hb, chooseBody_eq_chooseAmong]
      simp only [bind_assoc, pure_bind]
      refine bind_congr fun body => ?_
      have hshorter := (Step.splice hb body.2).shorter
      exact ih (by omega)

/-! ## Passes -/

theorem Sequential.chooseAmong {m : Type → Type} [Monad m] {P : ∀ α : Type, m α → Prop}
    (hP : Sequential P) {test : List Char → m Bool} (ht : ∀ c, P _ (test c)) (bs : List Branch) :
    P _ (chooseAmong test bs) := by
  induction bs with
  | nil => exact hP.pure _
  | cons b bs ih =>
    obtain ⟨_ | c, body, position⟩ := b
    · exact hP.pure _
    · refine hP.bind (ht c) fun holds => ?_
      cases holds with
      | true => exact hP.pure _
      | false => exact hP.bind ih fun _ => hP.pure _

/-- A property of sequences holds of reducing without a limit if it holds of the tests. -/
theorem Sequential.normalize {m : Type → Type} [Monad m] {P : ∀ α : Type, m α → Prop}
    (hP : Sequential P) {test : List Char → m Bool} (ht : ∀ c, P _ (test c)) (text : List Char) :
    P _ (normalize test text) := by
  -- the text is shorter after a step
  induction hn : text.length using Nat.strong_induction_on generalizing text with
  | _ n ih =>
    rw [Render.normalize]
    split
    · exact hP.pure _
    · next b hb =>
      refine hP.bind (hP.chooseAmong ht b.branches) fun body => ?_
      have hshorter := (Step.splice hb body.2).shorter
      exact hP.bind (ih _ (by omega) _ rfl) fun _ => hP.pure _

/-- An event that reports no limit reached. -/
def Event.IsWithinLimit (e : Event) : Prop := ∀ d ∈ e.diagnostic?, d.code ≠ "iteration_limit"

theorem Event.isWithinLimit {e : Event} (h : ∀ limit, e ≠ .iterationLimit limit) :
    e.IsWithinLimit := by
  intro d hd
  cases e with
  | iterationLimit limit => exact absurd rfl (h limit)
  | filterSkipped fault =>
    cases hd
    cases fault <;> simp [ChainFault.diagnostic]
  | _ => cases hd <;> simp

/-- Conditional reduction comes to a normal form within a bound.

    A step makes the text shorter by eleven characters at least, and only deletes.  So for every
    limit that is large enough for the length of the text, whatever the conditions come to, a
    reduction is the one without a limit: the text that it returns has no block, reducing it again
    tests no condition, and no pass notices that a limit was reached. -/
theorem reduceBlocks_normalizes (text : List Char) :
    (∀ t, Step text t → t.length + 11 ≤ text.length ∧ t.Sublist text) ∧
    (∀ (m : Type → Type) [Monad m] [LawfulMonad m] (test : List Char → m Bool)
      (notice : Event → m Unit) (limit : Int), (text.length : Int) ≤ 11 * limit →
        reduceBlocks test notice limit text = normalize test text >>= fun n =>
          noticeStray notice n.result >>= fun _ => pure n.result) ∧
    (∀ n : NormalForm text, n.result.Sublist text ∧ Block.find? n.result = none ∧
      ∀ (m : Type → Type) [Monad m] [LawfulMonad m] (test : List Char → m Bool)
        (notice : Event → m Unit) (limit : Int),
          reduceBlocks test notice limit n.result =
            noticeStray notice n.result >>= fun _ => pure n.result) ∧
    ∀ (p : Pass) (limit : Int), (text.length : Int) ≤ 11 * limit →
      Appends Event.IsWithinLimit (reduceBlocks p.testBranch notice limit text) := by
  have hreduce : ∀ (m : Type → Type) [Monad m] [LawfulMonad m] (test : List Char → m Bool)
      (notice : Event → m Unit) (limit : Int), (text.length : Int) ≤ 11 * limit →
        reduceBlocks test notice limit text = normalize test text >>= fun n =>
          noticeStray notice n.result >>= fun _ => pure n.result := by
    intro m _ _ test notice limit hlimit
    have hdone : reduce test limit.toNat text =
        normalText test text >>= fun reduced => pure (reduced, true) :=
      reduce_eq_normalText (by omega)
    rw [reduceBlocks_of_reduce hdone, normalText, bind_assoc]
    simp only [pure_bind]
  refine ⟨fun t h => ⟨h.shorter, h.sublist⟩, hreduce, fun n => ?_, fun p limit hlimit => ?_⟩
  · exact ⟨sublist_of_steps n.reached, n.noBlock, fun m _ _ test notice limit =>
      reduceBlocks_of_find?_eq_none n.noBlock test notice limit⟩
  · -- only the conditions and the look at the markers that are left notice anything
    have hconditions (c : List Char) : Appends Event.IsWithinLimit (p.testBranch c) := by
      refine (p.appends_testBranch c).mono fun e he => Event.isWithinLimit ?_
      rintro limit rfl
      cases he
    rw [hreduce PassM p.testBranch notice limit hlimit]
    refine Appends.sequential.bind (Appends.sequential.normalize hconditions text) fun n => ?_
    refine Appends.sequential.bind ?_ fun _ => Appends.sequential.pure _
    unfold noticeStray
    split
    · exact .notice (Event.isWithinLimit fun _ => Event.noConfusion)
    · exact Appends.sequential.pure _

/-- The pieces of a block around another one, which make an opening marker when they meet. -/
def gluedBlocks : List Char := "[i[if:a][/if]f:b]x[/if]".toList

/-- Conditions that never hold, counted. -/
def countTest (_ : List Char) : StateM Nat Bool := do
  modify (· + 1)
  return false

/-- The first step takes away eleven characters and no more, and a limit of three is enough for two
    steps: the result is the same with a limit of a thousand. -/
theorem reduceBlocks_normalizes_glued :
    Step gluedBlocks "[if:b]x[/if]".toList ∧
      "[if:b]x[/if]".toList.length + 11 ≤ gluedBlocks.length ∧
    (gluedBlocks.length : Int) ≤ 11 * 3 ∧
      Id.run ((reduceBlocks countTest (fun _ => pure ()) 3 gluedBlocks).run 0) = ([], 2) ∧
      Id.run ((reduceBlocks countTest (fun _ => pure ()) 1000 gluedBlocks).run 0) = ([], 2) ∧
      Appends Event.IsWithinLimit (reduceBlocks (Pass.ofSources [] .empty).testBranch notice 3
        gluedBlocks) := by
  obtain ⟨hstep, hreduce, -, hpass⟩ := reduceBlocks_normalizes gluedBlocks
  have hfirst : Step gluedBlocks "[if:b]x[/if]".toList := by
    have hb : Block.find? gluedBlocks = some
        ⟨"[i".toList, [⟨some "a".toList, [], 2⟩], 13, "f:b]x[/if]".toList⟩ := by decide +kernel
    exact .splice hb (.inl rfl)
  have hthree : (gluedBlocks.length : Int) ≤ 11 * 3 := by decide
  have hthousand : (gluedBlocks.length : Int) ≤ 11 * 1000 := by decide
  have hresult : Id.run ((reduceBlocks countTest (fun _ => pure ()) 3 gluedBlocks).run 0) = ([], 2) := by
    decide +kernel
  refine ⟨hfirst, (hstep _ hfirst).1, hthree, hresult, ?_, hpass _ 3 hthree⟩
  rw [hreduce _ countTest _ 1000 hthousand, ← hreduce _ countTest _ 3 hthree]
  exact hresult

end RecordTemplate.Render
