/-
  RecordTemplate.Proofs.Conditional.Refinement

  Reducing the text of a tree block by block comes to the direct evaluation of the tree.

  The reduction knows no tree: each step scans the whole text again and replaces its first
  block.  One step on the text of a tree is one step of the evaluation (`Tree.find?_block` and
  `Tree.evaluate_block`), so a run of steps follows the evaluation, state by state, for every way
  in which conditions are tested (`reduce_text`).  A watched evaluation records the conditions
  that it tests and counts the blocks that it enters.
-/

import RecordTemplate.Proofs.Conditional.Blocks
import RecordTemplate.Proofs.Pass.Events
import RecordTemplate.Proofs.Template.Split

namespace RecordTemplate.Render

open RecordTemplate.Template

variable {ε σ ρ α β : Type}

/-! ## Watched evaluation -/

/-- The state of an evaluation with the conditions tested so far and the number of blocks
    entered. -/
structure Watched (σ : Type) where
  state : σ
  tested : List (List Char) := []
  entered : Nat := 0

namespace Watched

/-- A block is entered. -/
def enter : ExceptT ε (StateM (Watched σ)) Unit :=
  modify fun w => { w with entered := w.entered + 1 }

/-- A test that records the condition. -/
def test (test : List Char → ExceptT ε (StateM σ) Bool) (c : List Char) :
    ExceptT ε (StateM (Watched σ)) Bool :=
  ExceptT.mk fun w =>
    let (r, s) := outcome (test c) w.state
    (r, { w with state := s, tested := w.tested ++ [c] })

variable (t : List Char → ExceptT ε (StateM σ) Bool) (c : List Char) (w : Watched σ)

@[simp] theorem outcome_enter :
    outcome (enter (ε := ε)) w = (.ok (), { w with entered := w.entered + 1 }) := rfl

@[simp] theorem outcome_test :
    outcome (test t c) w = ((outcome (t c) w.state).1,
      { w with state := (outcome (t c) w.state).2, tested := w.tested ++ [c] }) := rfl

end Watched

/-- The direct evaluation of a tree from a state: its answer and the state after it, with all
    conditions tested in their order and the number of blocks entered. -/
def directly (t : Tree) (test : List Char → ExceptT ε (StateM σ) Bool) (s : σ) :
    Except ε (List Char) × Watched σ :=
  outcome (t.evaluate Watched.enter (Watched.test test)) { state := s }

/-! ## Properties of the evaluation -/

mutual

theorem evaluate_sequential {m : Type → Type} [Monad m] {P : ∀ α : Type, m α → Prop}
    (hP : Sequential P) {enter : m Unit} {test : List Char → m Bool} (he : P _ enter)
    (ht : ∀ c, P _ (test c)) (t : Tree) : P _ (t.evaluate enter test) := by
  match t with
  | .nil => exact hP.pure _
  | .literal s rest => exact hP.bind (evaluate_sequential hP he ht rest) fun _ => hP.pure _
  | .block g body more rest =>
    have hrest := evaluate_sequential hP he ht rest
    refine hP.bind he fun _ => hP.bind (ht _) fun holds => ?_
    split
    · exact hP.bind (evaluate_sequential hP he ht body) fun _ => hP.bind hrest fun _ => hP.pure _
    · exact hP.bind (evaluateMore_sequential hP he ht more) fun _ =>
        hP.bind hrest fun _ => hP.pure _

theorem evaluateMore_sequential {m : Type → Type} [Monad m] {P : ∀ α : Type, m α → Prop}
    (hP : Sequential P) {enter : m Unit} {test : List Char → m Bool} (he : P _ enter)
    (ht : ∀ c, P _ (test c)) (b : Branches) : P _ (b.evaluate enter test) := by
  match b with
  | .nil => exact hP.pure _
  | .elseIf _ g body more =>
    refine hP.bind (ht _) fun holds => ?_
    split
    · exact evaluate_sequential hP he ht body
    · exact evaluateMore_sequential hP he ht more
  | .otherwise body _ => exact evaluate_sequential hP he ht body

end

theorem choose_sequential {m : Type → Type} [Monad m] {P : ∀ α : Type, m α → Prop}
    (hP : Sequential P) {test : List Char → m Bool} (ht : ∀ c, P _ (test c)) (b : Branches) :
    P _ (b.choose test) := by
  match b with
  | .nil => exact hP.pure _
  | .elseIf _ g body more =>
    refine hP.bind (ht _) fun holds => ?_
    split
    · exact hP.pure _
    · exact choose_sequential hP ht more
  | .otherwise body _ => exact hP.pure _

/-- `y` does to the image of a state what `x` does to the state, with the same answer. -/
def Mirrors (f : σ → ρ) (x : ExceptT ε (StateM σ) α) (y : ExceptT ε (StateM ρ) α) : Prop :=
  ∀ w, outcome y (f w) = ((outcome x w).1, f (outcome x w).2)

theorem Mirrors.bind {f : σ → ρ} {x : ExceptT ε (StateM σ) α} {y : ExceptT ε (StateM ρ) α}
    {g : α → ExceptT ε (StateM σ) β} {h : α → ExceptT ε (StateM ρ) β} (hxy : Mirrors f x y)
    (hgh : ∀ a, Mirrors f (g a) (h a)) : Mirrors f (x >>= g) (y >>= h) := by
  intro w
  rw [outcome_bind, outcome_bind, hxy w]
  rcases outcome x w with ⟨e | a, v⟩
  · rfl
  · exact hgh a v

theorem choose_mirrors {f : σ → ρ} {test : List Char → ExceptT ε (StateM σ) Bool}
    {test' : List Char → ExceptT ε (StateM ρ) Bool} (h : ∀ c, Mirrors f (test c) (test' c))
    (b : Branches) : Mirrors f (b.choose test) (b.choose test') := by
  match b with
  | .nil => exact fun _ => rfl
  | .elseIf _ g body more =>
    refine Mirrors.bind (h _) fun holds => ?_
    cases holds
    · exact choose_mirrors h more
    · exact fun _ => rfl
  | .otherwise body _ => exact fun _ => rfl

/-! ## Steps of the reduction -/

/-- Branches with the conditions and the bodies of a tree are chosen from like the tree's. -/
theorem chooseBody_eq {m : Type → Type} [Monad m] [LawfulMonad m] (test : List Char → m Bool)
    {bs : List Branch} {more : Branches} (h : bs.map Branch.content = more.list) :
    chooseBody test bs = more.choose test >>= fun t => pure t.text := by
  match more, bs with
  | .nil, [] => simp [chooseBody, Branches.choose, Tree.text]
  | .elseIf _ g body more, b :: bs =>
    simp only [List.map_cons, Branches.list, List.cons.injEq, Branch.content,
      Prod.mk.injEq] at h
    obtain ⟨⟨hc, hb⟩, hm⟩ := h
    simp only [chooseBody, hc, hb, Branches.choose, bind_assoc, chooseBody_eq test hm]
    congr 1
    funext holds
    cases holds <;> simp
  | .otherwise body more, b :: bs =>
    simp only [List.map_cons, Branches.list, List.cons.injEq, Branch.content,
      Prod.mk.injEq] at h
    simp [chooseBody, h.1.1, h.1.2, Branches.choose]

/-- One step of the reduction puts the body that is chosen in front of what follows. -/
theorem reduce_block {m : Type → Type} [Monad m] [LawfulMonad m] (test : List Char → m Bool)
    (limit : Nat) (l : Literal) (g : Guard) (body : Tree) (more : Branches) (rest : Tree) :
    reduce test (limit + 1) (l.1 ++ (Tree.block g body more rest).text) =
      Tree.choose test g body more >>= fun t =>
        reduce test limit (l.1 ++ (t.append rest).text) := by
  obtain ⟨b, hb, hbefore, hafter, hbs⟩ := Tree.find?_block l g body more rest
  have hlist : b.branches.map Branch.content = (Branches.elseIf false g body more).list := hbs
  rw [reduce_succ_of_some hb, chooseBody_eq test hlist, bind_assoc]
  simp only [pure_bind, splice, hbefore, hafter, Tree.text_append, List.append_assoc]
  rfl

/-! ## The reduction follows the evaluation -/

section Simulation

variable {test : List Char → ExceptT ε (StateM σ) Bool}

/-- Choosing a branch enters no block. -/
theorem entered_choose (b : Branches) (w : Watched σ) :
    (outcome (b.choose (Watched.test test)) w).2.entered = w.entered :=
  choose_sequential (Keeps.sequential (I := fun v : Watched σ => v.entered = w.entered))
    (fun c v hv => show (outcome (Watched.test test c) v).2.entered = w.entered from hv) b w rfl

/-- Evaluating a tree that begins with a block enters this block. -/
theorem lt_entered_block (g : Guard) (body : Tree) (more : Branches) (rest : Tree)
    (w : Watched σ) :
    w.entered < (outcome ((Tree.block g body more rest).evaluate Watched.enter
      (Watched.test test)) w).2.entered := by
  have hP := Keeps.sequential (ε := ε) (I := fun v : Watched σ => w.entered < v.entered)
  have htest (c) : Keeps (fun v : Watched σ => w.entered < v.entered) (Watched.test test c) :=
    fun v hv => hv
  have henter : Keeps (fun v : Watched σ => w.entered < v.entered) (Watched.enter (ε := ε)) :=
    fun v hv => Nat.lt_trans hv (Nat.lt_succ_self v.entered)
  have hrest : Keeps (fun v : Watched σ => w.entered < v.entered)
      (Tree.choose (Watched.test test) g body more >>= fun t =>
        (t.append rest).evaluate Watched.enter (Watched.test test)) :=
    hP.bind (choose_sequential hP htest (.elseIf false g body more)) fun t =>
      evaluate_sequential hP henter htest _
  -- the block is counted first, and nothing that follows takes a count back
  rw [Tree.evaluate_block, outcome_bind_ok _ (Watched.outcome_enter w)]
  exact hrest _ (Nat.lt_succ_self _)

/-- A run of the reduction follows the evaluation.  `f` is what the reduction sees of a watched
    state; it cannot see how many blocks were entered.  The induction is on the limit, and within
    one limit on the items of the tree, which gather in the literal `l` until a block comes. -/
theorem reduce_text {f : Watched σ → ρ} {test' : List Char → ExceptT ε (StateM ρ) Bool}
    (hf : ∀ w k, f { w with entered := k } = f w)
    (ht : ∀ c, Mirrors f (Watched.test test c) (test' c)) (limit : Nat) (l : Literal) (t : Tree)
    (w : Watched σ)
    (hw : (outcome (t.evaluate Watched.enter (Watched.test test)) w).2.entered ≤
      w.entered + limit) :
    outcome (reduce test' limit (l.1 ++ t.text)) (f w) =
        ((outcome (t.evaluate Watched.enter (Watched.test test)) w).1.map
            fun a => (l.1 ++ a, true),
          f (outcome (t.evaluate Watched.enter (Watched.test test)) w).2) ∧
      ∀ a, (outcome (t.evaluate Watched.enter (Watched.test test)) w).1 = .ok a → '[' ∉ a := by
  match t, limit with
  | .nil, limit =>
    refine ⟨?_, fun a ha => ?_⟩
    · rw [Tree.text, List.append_nil, reduce_of_find?_eq_none (find?_literal l), Tree.evaluate]
      simp [Except.map]
    · rw [Tree.evaluate] at ha
      cases ha
      simp
  | .literal s rest, limit =>
    -- the literal joins those before the next block
    rw [Tree.evaluate, outcome_bind_pure] at hw ⊢
    have hl : '[' ∉ l.1 ++ s.1 := by
      simp [l.2, s.2]
    obtain ⟨hr, hb⟩ := reduce_text hf ht limit ⟨_, hl⟩ rest w hw
    refine ⟨?_, fun a ha => ?_⟩
    · rw [Tree.text, ← List.append_assoc, hr]
      rcases outcome (rest.evaluate Watched.enter (Watched.test test)) w with ⟨e | a, v⟩ <;>
        simp [Except.map]
    · rcases hv : outcome (rest.evaluate Watched.enter (Watched.test test)) w with ⟨e | b, v⟩ <;>
        rw [hv] at ha hb
      · cases ha
      · cases ha
        simpa [s.2] using hb b rfl
  | .block g body more rest, 0 =>
    -- the evaluation enters this block, so the limit is not zero
    exact absurd (lt_entered_block g body more rest w) (Nat.not_lt.2 hw)
  | .block g body more rest, limit + 1 =>
    let v := { w with entered := w.entered + 1 }
    -- both choose the same branch, and neither enters a block while it chooses
    have hm : outcome (Tree.choose test' g body more) (f w) =
        ((outcome (Tree.choose (Watched.test test) g body more) v).1,
          f (outcome (Tree.choose (Watched.test test) g body more) v).2) :=
      hf w (w.entered + 1) ▸ choose_mirrors ht (.elseIf false g body more) v
    have he : (outcome (Tree.choose (Watched.test test) g body more) v).2.entered =
        w.entered + 1 := entered_choose (.elseIf false g body more) v
    rw [Tree.evaluate_block, outcome_bind_ok _ (Watched.outcome_enter w), outcome_bind] at hw ⊢
    rw [reduce_block, outcome_bind, hm]
    rcases hv : outcome (Tree.choose (Watched.test test) g body more) v with ⟨e | u, v'⟩
    · exact ⟨rfl, fun a ha => by cases ha⟩
    · rw [hv] at hw he
      have hw' : (outcome ((u.append rest).evaluate Watched.enter
          (Watched.test test)) v').2.entered ≤ w.entered + (limit + 1) := hw
      have he' : v'.entered = w.entered + 1 := he
      exact reduce_text hf ht limit l (u.append rest) v' (by omega)
termination_by (limit, t)

/-- Without a bracket there is no marker left over. -/
theorem strayMarker?_literal (l : Literal) : strayMarker? l.1 = none := by
  have h := scan_literal l []
  rw [List.append_nil, Recogniser.scan_nil] at h
  rw [strayMarker?, h]
  rfl

/-- What a run of the reduction follows, it also comes to, and it has nothing to notice. -/
theorem reduceBlocks_text {f : Watched σ → ρ} {test' : List Char → ExceptT ε (StateM ρ) Bool}
    (hf : ∀ w k, f { w with entered := k } = f w)
    (ht : ∀ c, Mirrors f (Watched.test test c) (test' c))
    (notice : Event → ExceptT ε (StateM ρ) Unit) {limit : Int} {t : Tree} {s : σ}
    (h : (directly t test s).2.entered ≤ limit) :
    outcome (reduceBlocks test' notice limit t.text) (f { state := s }) =
      ((directly t test s).1, f (directly t test s).2) := by
  have hw : (directly t test s).2.entered ≤ 0 + limit.toNat := by omega
  obtain ⟨hr, hb⟩ := reduce_text hf ht limit.toNat ⟨[], by simp⟩ t { state := s } hw
  change outcome (reduce test' limit.toNat t.text) _ =
    ((directly t test s).1.map _, f (directly t test s).2) at hr
  change ∀ a, (directly t test s).1 = .ok a → _ at hb
  rw [reduceBlocks, outcome_bind, hr]
  rcases hd : (directly t test s).1 with e | a
  · rfl
  · -- the text that comes out has no bracket, so there is no marker to warn about
    have hs : strayMarker? a = none := strayMarker?_literal ⟨a, hb a hd⟩
    simp [Except.map, hs]

end Simulation

/-! ## Passes -/

/-- The branches that a pass notices are those that a watched evaluation records. -/
theorem tested_testBranch (p : Pass) (c : List Char) (before : List (List Char)) :
    Keeps (fun w : Watched PassState => w.state.events.filterMap Event.tested? = before ++ w.tested)
      (Watched.test p.testBranch c) := by
  intro w hw
  have hrun : outcome (p.testBranch c) w.state =
      outcome (p.evaluate c) { w.state with events := w.state.events ++ [.branchTested c] } :=
    outcome_bind_ok _ (outcome_notice _ _)
  obtain ⟨es, hes, hnone⟩ :=
    p.appends_evaluate c { w.state with events := w.state.events ++ [.branchTested c] }
  have hes' : es.filterMap Event.tested? = [] :=
    List.filterMap_eq_nil_iff.2 fun e he => (hnone e he).1
  rw [Watched.outcome_test, hrun]
  simp only [hes, List.filterMap_append, hes', hw, List.append_nil, List.append_assoc]
  rfl

theorem tested_directly (p : Pass) (t : Tree) (s : PassState) :
    (directly t p.testBranch s).2.state.events.filterMap Event.tested? =
      s.events.filterMap Event.tested? ++ (directly t p.testBranch s).2.tested := by
  have henter (before : List (List Char)) : Keeps (fun w : Watched PassState =>
      w.state.events.filterMap Event.tested? = before ++ w.tested)
      (Watched.enter (ε := Failure)) := fun w hw => hw
  exact evaluate_sequential Keeps.sequential (henter _) (fun c => tested_testBranch p c _) t
    { state := s } (List.append_nil _).symm

/-- Reducing the text of a tree comes to the direct evaluation of the tree: the same text or
    the same failure, the same conditions tested in the same order from the same states, and
    nothing else noticed.  A pass counts each condition tested once. -/
theorem reduceBlocks_refines_evaluate (t : Tree) :
    (∀ {ε σ : Type} (test : List Char → ExceptT ε (StateM σ) Bool) (s : σ) (limit : Int),
      (directly t test s).2.entered ≤ limit →
        (∀ notice, outcome (reduceBlocks test notice limit t.text) s =
          ((directly t test s).1, (directly t test s).2.state)) ∧
        ∀ notice, outcome (reduceBlocks (Watched.test test) notice limit t.text) { state := s } =
          ((directly t test s).1, { (directly t test s).2 with entered := 0 })) ∧
    ∀ (p : Pass) (s : PassState),
      (directly t p.testBranch s).2.entered ≤ p.limit →
        ∃ s', outcome (reduceBlocks p.testBranch notice p.limit t.text) s =
            ((directly t p.testBranch s).1, s') ∧
          s'.events.filterMap Event.tested? =
            s.events.filterMap Event.tested? ++ (directly t p.testBranch s).2.tested ∧
          (Stats.ofEvents s'.events).conditionalsEvaluated =
            (Stats.ofEvents s.events).conditionalsEvaluated +
              (directly t p.testBranch s).2.tested.length := by
  refine ⟨fun test s limit h => ⟨fun notice => ?_, fun notice => ?_⟩, fun p s h => ?_⟩
  · exact reduceBlocks_text (f := Watched.state) (fun _ _ => rfl) (fun _ _ => rfl) notice h
  · have ht (c) : Mirrors (fun w : Watched _ => { w with entered := 0 }) (Watched.test test c)
        (Watched.test test c) := fun _ => rfl
    exact reduceBlocks_text (fun _ _ => rfl) ht notice h
  · refine ⟨_, reduceBlocks_text (f := Watched.state) (fun _ _ => rfl) (fun _ _ => rfl) notice h,
      tested_directly p t s, ?_⟩
    rw [conditionalsEvaluated_ofEvents, conditionalsEvaluated_ofEvents, tested_directly,
      List.length_append]

/-- The tree of `x[if:a]y[else if:b][if:c][else]z[/if][/if]`. -/
def nestedTree : Tree :=
  .literal ⟨['x'], by decide⟩ <|
    .block ⟨['a'], by decide⟩ (.literal ⟨['y'], by decide⟩ .nil)
      (.elseIf true ⟨['b'], by decide⟩
        (.block ⟨['c'], by decide⟩ .nil (.otherwise (.literal ⟨['z'], by decide⟩ .nil) .nil) .nil)
        .nil)
      .nil

/-- Only the condition `b` holds.  The state counts the conditions tested. -/
def holdsForB (c : List Char) : ExceptT Failure (StateM Nat) Bool := do
  modify (· + 1)
  return c = ['b']

/-- A pass without data sources, which can enter two blocks. -/
def passOfTwo : Pass := { Pass.ofSources [] .empty with limit := 2 }

/-- With `b` the inner block is reached, and three conditions are tested.  In the pass every
    condition is malformed, so only the outer block is entered and its two conditions count. -/
theorem reduceBlocks_refines_evaluate_nested :
    ((directly nestedTree holdsForB 0).2.entered ≤ (2 : Int) ∧
      outcome (reduceBlocks holdsForB (fun _ => pure ()) 2 nestedTree.text) 0 =
        (.ok ['x', 'z'], 3)) ∧
    (directly nestedTree passOfTwo.testBranch {}).2.entered ≤ passOfTwo.limit ∧
      ∃ s, outcome (reduceBlocks passOfTwo.testBranch notice passOfTwo.limit nestedTree.text) {} =
          (.ok ['x'], s) ∧
        (Stats.ofEvents s.events).conditionalsEvaluated = 2 := by
  obtain ⟨htest, hpass⟩ := reduceBlocks_refines_evaluate nestedTree
  have hb : (directly nestedTree holdsForB 0).2.entered ≤ (2 : Int) := by decide
  have hp : (directly nestedTree passOfTwo.testBranch {}).2.entered ≤ passOfTwo.limit := by decide
  obtain ⟨s, hs, -, hcount⟩ := hpass passOfTwo {} hp
  exact ⟨⟨hb, (htest holdsForB 0 2 hb).1 _⟩, hp, s, hs, hcount⟩

end RecordTemplate.Render
