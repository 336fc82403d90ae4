/-
  RecordTemplate.Proofs.Pass.Reductions

  How many blocks a pass reduces.

  The limit holds for the reduction of one text.  The tag and the body of a fallback are rendered
  like texts of their own, and so for each of them the counting begins again.  A rendering that
  records what it does with blocks (`Pass.renderActing`) is the rendering of the pass but for the
  record.  The record is a row of reductions with their steps (`Loops`), one for each text that is
  rendered (`Shifts.renderActing`); if no fallback has a block in its tag or its body, then only the
  first of them has steps (`acts_renderActing`).
-/

import RecordTemplate.Proofs.Mirroring
import RecordTemplate.Proofs.Pass.Fallbacks

namespace RecordTemplate.Render

open RecordTemplate.Template

variable {ε σ α β : Type}

/-! ## Acts -/

/-- What is done with the blocks of a text. -/
inductive Act where
  /-- The reduction of a text begins. -/
  | begins
  /-- A block is replaced by a body. -/
  | reduces
  /-- It is noticed that the limit has been reached. -/
  | limits
  deriving DecidableEq, Repr

/-- A state with what has been done so far. -/
structure Acted (σ : Type) where
  state : σ
  acts : List Act := []

namespace Acted

def act (a : Act) : ExceptT ε (StateM (Acted σ)) Unit :=
  modify fun w => { w with acts := w.acts ++ [a] }

/-- A step that does nothing with blocks. -/
def quiet (x : ExceptT ε (StateM σ) α) : ExceptT ε (StateM (Acted σ)) α :=
  ExceptT.mk fun w =>
    let (r, s) := outcome x w.state
    (r, { w with state := s })

/-- An event noticed, which is an act if it says that the limit has been reached. -/
def noticed (notice : Event → ExceptT ε (StateM σ) Unit) (e : Event) :
    ExceptT ε (StateM (Acted σ)) Unit :=
  match e with
  | .iterationLimit limit => do
    act .limits
    quiet (notice (.iterationLimit limit))
  | e => quiet (notice e)

def handlers (h : Handlers (ExceptT ε (StateM σ))) : Handlers (ExceptT ε (StateM (Acted σ))) :=
  ⟨fun c => quiet (h.test c), fun tag => quiet (h.renderTag tag), noticed h.notice⟩

end Acted

/-! ## Recorded renderings -/

/-- `reduce` with its steps recorded. -/
def reduceActing (test : List Char → ExceptT ε (StateM (Acted σ)) Bool) :
    Nat → List Char → ExceptT ε (StateM (Acted σ)) (List Char × Bool)
  | limit, text =>
    match Block.find? text with
    | none => pure (text, true)
    | some b =>
      match limit with
      | 0 => pure (text, false)
      | limit + 1 => do
        Acted.act .reduces
        let body ← chooseBody test b.branches
        reduceActing test limit (splice b body)

/-- `reduceBlocks` with its beginning and its steps recorded. -/
def reduceBlocksActing (h : Handlers (ExceptT ε (StateM (Acted σ)))) (limit : Int)
    (text : List Char) : ExceptT ε (StateM (Acted σ)) (List Char) := do
  Acted.act .begins
  let (reduced, done) ← reduceActing h.test limit.toNat text
  if done then noticeStray h.notice reduced else h.notice (.iterationLimit limit)
  return reduced

/-- `renderNested` with its reductions recorded.  The depth is never used up, so it does not matter
    what is recorded then. -/
def renderActing (h : Handlers (ExceptT ε (StateM (Acted σ)))) (ks : Keywords) (limit : Int) :
    Nat → List Char → ExceptT ε (StateM (Acted σ)) (List Char)
  | 0, text => do
    Acted.act .begins
    return text
  | depth + 1, text => do
    let reduced ← reduceBlocksActing h limit text
    substitute ks h.renderTag (fun form => do
      let value ← renderActing h ks limit depth form.tagText
      h.notice (.fallbackTried value.isEmpty)
      if value.isEmpty then renderActing h ks limit depth form.body else return value) reduced

section Equations

variable {test : List Char → ExceptT ε (StateM (Acted σ)) Bool} {text : List Char}

theorem reduceActing_of_none (h : Block.find? text = none) (limit : Nat) :
    reduceActing test limit text = pure (text, true) := by
  unfold reduceActing
  rw [h]

theorem reduceActing_zero {b : Block} (h : Block.find? text = some b) :
    reduceActing test 0 text = pure (text, false) := by
  rw [reduceActing, h]

theorem reduceBlocksActing_of_none {h : Handlers (ExceptT ε (StateM (Acted σ)))}
    (hnone : Block.find? text = none) (limit : Int) :
    reduceBlocksActing h limit text = (do
      Acted.act .begins
      noticeStray h.notice text
      return text) := by
  rw [reduceBlocksActing, reduceActing_of_none hnone]
  simp only [pure_bind, if_true]

theorem reduceActing_succ {b : Block} (h : Block.find? text = some b) (limit : Nat) :
    reduceActing test (limit + 1) text = (do
      Acted.act .reduces
      let body ← chooseBody test b.branches
      reduceActing test limit (splice b body)) := by
  rw [reduceActing, h]

end Equations

/-! ## The record is left out -/

namespace Mirrors

theorem quiet (x : ExceptT ε (StateM σ) α) : Mirrors Acted.state (Acted.quiet x) x := fun _ => rfl

theorem act_bind (a : Act) {x : ExceptT ε (StateM (Acted σ)) α} {y : ExceptT ε (StateM σ) α}
    (h : Mirrors Acted.state x y) : Mirrors Acted.state (Acted.act a >>= fun _ => x) y :=
  fun w => h { w with acts := w.acts ++ [a] }

theorem noticed (notice : Event → ExceptT ε (StateM σ) Unit) (e : Event) :
    Mirrors Acted.state (Acted.noticed notice e) (notice e) := by
  unfold Acted.noticed
  split
  · exact act_bind .limits (quiet _)
  · exact quiet _

theorem reduceActing (test : List Char → ExceptT ε (StateM σ) Bool) (limit : Nat)
    (text : List Char) :
    Mirrors Acted.state (reduceActing (fun c => Acted.quiet (test c)) limit text)
      (Render.reduce test limit text) := by
  induction limit generalizing text with
  | zero =>
    cases hb : Block.find? text with
    | none =>
      rw [reduceActing_of_none hb, reduce_of_find?_eq_none hb]
      exact pure (text, true)
    | some b =>
      rw [reduceActing_zero hb, Render.reduce, hb]
      exact pure (text, false)
  | succ limit ih =>
    cases hb : Block.find? text with
    | none =>
      rw [reduceActing_of_none hb, reduce_of_find?_eq_none hb]
      exact pure (text, true)
    | some b =>
      rw [reduceActing_succ hb, reduce_succ_of_some hb]
      exact act_bind .reduces (bind (chooseBody (fun c => quiet (test c)) _) fun body => ih _)

variable {h : Handlers (ExceptT ε (StateM σ))}

theorem reduceBlocksActing (limit : Int) (text : List Char) :
    Mirrors Acted.state (reduceBlocksActing (Acted.handlers h) limit text)
      (Render.reduceBlocks h.test h.notice limit text) := by
  refine act_bind .begins (bind (reduceActing h.test limit.toNat text) fun r => ?_)
  obtain ⟨reduced, done⟩ := r
  cases done with
  | false => exact bind (noticed h.notice _) fun _ => pure reduced
  | true =>
    dsimp only [noticeStray]
    cases strayMarker? reduced with
    | none => exact pure reduced
    | some marker => exact bind (noticed h.notice _) fun _ => pure reduced

theorem renderActing (ks : Keywords) (limit : Int) (depth : Nat) (text : List Char) :
    Mirrors Acted.state (renderActing (Acted.handlers h) ks limit depth text)
      (Render.renderNested h ks limit depth text) := by
  induction depth generalizing text with
  | zero => exact act_bind .begins (pure text)
  | succ depth ih =>
    refine bind (reduceBlocksActing limit text) fun reduced => ?_
    refine substitute (fun tag => quiet (h.renderTag tag)) (fun form => ?_) reduced
    refine bind (ih form.tagText) fun value => bind (noticed h.notice _) fun _ => ?_
    split
    · exact ih form.body
    · exact pure value

end Mirrors

/-! ## What a rendering records -/

/-- The record of one reduction: at most `limit` steps, and only after so many it may be noticed
    that the limit has been reached. -/
inductive IsLoop (limit : Nat) : List Act → Prop where
  | done {steps : Nat} (hle : steps ≤ limit) :
      IsLoop limit (.begins :: List.replicate steps .reduces)
  | limited : IsLoop limit (.begins :: (List.replicate limit .reduces ++ [.limits]))

theorem IsLoop.count_le {limit : Nat} {l : List Act} (h : IsLoop limit l) :
    l.count .reduces ≤ limit * l.count .begins := by
  cases h with
  | done hle => simpa [List.count_replicate] using hle
  | limited => simp [List.count_replicate]

/-- The records of reductions one after the other. -/
def Loops (limit : Nat) (acts : List Act) : Prop :=
  ∃ loops : List (List Act), loops.flatten = acts ∧ ∀ l ∈ loops, IsLoop limit l

namespace Loops

variable {limit : Nat} {as bs : List Act}

theorem nil : Loops limit [] := ⟨[], rfl, fun _ h => absurd h List.not_mem_nil⟩

theorem append (ha : Loops limit as) (hb : Loops limit bs) : Loops limit (as ++ bs) := by
  obtain ⟨loops, rfl, hloops⟩ := ha
  obtain ⟨more, rfl, hmore⟩ := hb
  refine ⟨loops ++ more, List.flatten_append, fun l hl => ?_⟩
  exact (List.mem_append.1 hl).elim (hloops l) (hmore l)

theorem of_isLoop (h : IsLoop limit as) : Loops limit as :=
  ⟨[as], by simp, fun _ hl => List.mem_singleton.1 hl ▸ h⟩

/-- There are at most `limit` steps for each reduction. -/
theorem count_le (h : Loops limit as) : as.count .reduces ≤ limit * as.count .begins := by
  obtain ⟨loops, rfl, hloops⟩ := h
  induction loops with
  | nil => simp
  | cons l loops ih =>
    have hfirst := (hloops l List.mem_cons_self).count_le
    have hrest := ih fun l' hl' => hloops l' (List.mem_cons_of_mem l hl')
    rw [List.flatten_cons, List.count_append, List.count_append, Nat.mul_add]
    omega

end Loops

/-- What a step records is of `E`. -/
def Adds (E : List Act → Prop) (x : ExceptT ε (StateM (Acted σ)) α) : Prop :=
  ∀ w, ∃ new, E new ∧ (outcome x w).2.acts = w.acts ++ new

namespace Adds

variable {E : List Act → Prop} {x : ExceptT ε (StateM (Acted σ)) α}

theorem sequential (hnil : E []) (happend : ∀ {as bs}, E as → E bs → E (as ++ bs)) :
    Sequential (m := ExceptT ε (StateM (Acted σ))) fun _ => Adds E where
  pure _ w := ⟨[], hnil, (List.append_nil _).symm⟩
  bind {_ _ x f} hx hf w := by
    obtain ⟨new, hE, hnew⟩ := hx w
    rw [outcome_bind]
    rcases hs : outcome x w with ⟨e | a, v⟩ <;> rw [hs] at hnew
    · exact ⟨new, hE, hnew⟩
    · obtain ⟨more, hE', hmore⟩ := hf a v
      refine ⟨new ++ more, happend hE hE', ?_⟩
      rw [← List.append_assoc, ← hnew]
      exact hmore

theorem mono {E' : List Act → Prop} (h : ∀ as, E as → E' as) (hx : Adds E x) : Adds E' x := by
  intro w
  obtain ⟨new, hE, hnew⟩ := hx w
  exact ⟨new, h new hE, hnew⟩

/-- Steps that record nothing. -/
theorem nothing : Sequential (m := ExceptT ε (StateM (Acted σ))) fun _ => Adds fun as => as = [] :=
  sequential rfl fun ha hb => by rw [ha, hb, List.append_nil]

theorem acts_eq (h : Adds (fun as => as = []) x) (w : Acted σ) : (outcome x w).2.acts = w.acts := by
  obtain ⟨new, rfl, hnew⟩ := h w
  rw [hnew, List.append_nil]

theorem quiet (x : ExceptT ε (StateM σ) α) : Adds (fun as => as = []) (Acted.quiet x) :=
  fun _ => ⟨[], rfl, (List.append_nil _).symm⟩

theorem noticed (notice : Event → ExceptT ε (StateM σ) Unit) {e : Event}
    (he : ∀ limit, e ≠ .iterationLimit limit) :
    Adds (fun as => as = []) (Acted.noticed notice e) := by
  unfold Acted.noticed
  split
  · next limit => exact absurd rfl (he limit)
  · exact quiet _

end Adds

section Record

variable {h : Handlers (ExceptT ε (StateM σ))}

theorem adds_noticeStray (text : List Char) :
    Adds (fun as => as = []) (noticeStray (Acted.handlers h).notice text) := by
  unfold noticeStray
  split
  · exact .noticed _ fun _ he => by cases he
  · exact Adds.nothing.pure ()

/-- A reduction takes at most `limit` steps, and stops before a block only after so many. -/
theorem acts_reduceActing (test : List Char → ExceptT ε (StateM σ) Bool) {limit : Nat}
    {text : List Char} {w v : Acted σ} {r : Except ε (List Char × Bool)}
    (hr : outcome (reduceActing (fun c => Acted.quiet (test c)) limit text) w = (r, v)) :
    ∃ steps ≤ limit, v.acts = w.acts ++ List.replicate steps .reduces ∧
      ∀ reduced, r = .ok (reduced, false) → steps = limit := by
  induction limit generalizing text w with
  | zero =>
    refine ⟨0, Nat.le_refl 0, ?_, fun _ _ => rfl⟩
    cases hb : Block.find? text with
    | none =>
      rw [reduceActing_of_none hb] at hr
      cases hr
      exact (List.append_nil _).symm
    | some b =>
      rw [reduceActing_zero hb] at hr
      cases hr
      exact (List.append_nil _).symm
  | succ limit ih =>
    cases hb : Block.find? text with
    | none =>
      rw [reduceActing_of_none hb] at hr
      cases hr
      exact ⟨0, Nat.zero_le _, (List.append_nil _).symm, fun _ hr => by cases hr⟩
    | some b =>
      rw [reduceActing_succ hb] at hr
      have hchoose := Adds.nothing.chooseBody (fun c => Adds.quiet (test c)) b.branches
      have hacts := hchoose.acts_eq { w with acts := w.acts ++ [.reduces] }
      change outcome (chooseBody (fun c => Acted.quiet (test c)) b.branches >>= fun body =>
        reduceActing (fun c => Acted.quiet (test c)) limit (splice b body))
          { w with acts := w.acts ++ [.reduces] } = (r, v) at hr
      rw [outcome_bind] at hr
      rcases hbody : outcome (chooseBody (fun c => Acted.quiet (test c)) b.branches)
        { w with acts := w.acts ++ [.reduces] } with ⟨e | body, u⟩ <;> rw [hbody] at hr hacts
      · cases hr
        exact ⟨1, Nat.le_add_left 1 limit, hacts, fun _ hr => by cases hr⟩
      · obtain ⟨steps, hle, hsteps, hlimited⟩ := ih hr
        refine ⟨steps + 1, Nat.succ_le_succ hle, ?_, fun reduced hr => ?_⟩
        · rw [hsteps, show u.acts = w.acts ++ [.reduces] from hacts, List.append_assoc]
          rfl
        · rw [hlimited reduced hr]

/-- The reduction of a text records one loop. -/
theorem adds_reduceBlocksActing (limit : Int) (text : List Char) :
    Adds (IsLoop limit.toNat) (reduceBlocksActing (Acted.handlers h) limit text) := by
  intro w
  change ∃ new, _ ∧ (outcome (reduceActing (Acted.handlers h).test limit.toNat text >>= _)
    { w with acts := w.acts ++ [.begins] }).2.acts = _
  rw [outcome_bind]
  rcases hr : outcome (reduceActing (Acted.handlers h).test limit.toNat text)
    { w with acts := w.acts ++ [.begins] } with ⟨e | ⟨reduced, done⟩, v⟩
  all_goals obtain ⟨steps, hle, hsteps, hlimited⟩ := acts_reduceActing h.test hr
  all_goals rw [List.append_assoc] at hsteps
  · exact ⟨_, .done hle, hsteps⟩
  · cases done with
    | true =>
      -- the markers that are left are no act
      have hstray := (Adds.nothing.bind (adds_noticeStray (h := h) reduced) fun _ =>
        Adds.nothing.pure reduced).acts_eq v
      exact ⟨_, .done hle, hstray.trans hsteps⟩
    | false =>
      obtain rfl := hlimited reduced rfl
      have hnoticed := (Adds.nothing.bind (Adds.quiet (h.notice (.iterationLimit limit))) fun _ =>
        Adds.nothing.pure reduced).acts_eq { v with acts := v.acts ++ [.limits] }
      refine ⟨_, .limited, hnoticed.trans ?_⟩
      rw [hsteps]
      simp

theorem adds_renderActing (ks : Keywords) (limit : Int) (depth : Nat) (text : List Char) :
    Adds (Loops limit.toNat) (renderActing (Acted.handlers h) ks limit depth text) := by
  have hseq : Sequential (m := ExceptT ε (StateM (Acted σ))) fun _ => Adds (Loops limit.toNat) :=
    Adds.sequential Loops.nil Loops.append
  have hquiet {α : Type} {x : ExceptT ε (StateM (Acted σ)) α}
      (hx : Adds (fun as => as = []) x) : Adds (Loops limit.toNat) x :=
    hx.mono fun as (has : as = []) => has ▸ Loops.nil
  induction depth generalizing text with
  | zero => exact fun w => ⟨_, .of_isLoop (.done (Nat.zero_le _)), rfl⟩
  | succ depth ih =>
    refine hseq.bind ?_ fun reduced => ?_
    · exact (adds_reduceBlocksActing limit text).mono fun _ => Loops.of_isLoop
    · refine hseq.substitute (fun tag => hquiet (.quiet (h.renderTag tag))) (fun form => ?_) reduced
      refine hseq.bind (ih form.tagText) fun value => ?_
      refine hseq.bind (hquiet (.noticed h.notice fun _ he => by cases he)) fun _ => ?_
      split
      · exact ih form.body
      · exact hseq.pure value

end Record

/-! ## Texts that are rendered -/

/-- How many texts are rendered for a fallback: its tag, and its body if the tag comes to nothing. -/
def Event.renderings : Event → Nat
  | .fallbackTried true => 2
  | .fallbackTried false => 1
  | _ => 0

/-- How many texts are rendered for the fallbacks that have been noticed. -/
def renderings : List Event → Nat
  | [] => 0
  | e :: es => e.renderings + renderings es

theorem renderings_append (es es' : List Event) :
    renderings (es ++ es') = renderings es + renderings es' := by
  induction es with
  | nil => rw [List.nil_append, renderings, Nat.zero_add]
  | cons e es ih => rw [List.cons_append, renderings, renderings, ih, Nat.add_assoc]

theorem renderings_eq_zero {es : List Event} (h : ∀ e ∈ es, e.renderings = 0) :
    renderings es = 0 := by
  induction es with
  | nil => rfl
  | cons e es ih =>
    rw [renderings, h e List.mem_cons_self, ih fun e' he' => h e' (List.mem_cons_of_mem e he')]

/-- The reductions begun beyond those of the fallbacks that have been noticed. -/
def Acted.surplus (w : Acted PassState) : Int :=
  (w.acts.count .begins : Int) - renderings w.state.events

/-- An answered step shifts the surplus by `k`. -/
def Shifts (k : Int) (x : ExceptT Failure (StateM (Acted PassState)) α) : Prop :=
  ∀ w a v, outcome x w = (.ok a, v) → v.surplus = w.surplus + k

namespace Shifts

variable {j k : Int}

theorem pure (a : α) : Shifts 0 (pure a) := by
  intro w a' v h
  cases h
  rw [Int.add_zero]

theorem bind {x : ExceptT Failure (StateM (Acted PassState)) α}
    {f : α → ExceptT Failure (StateM (Acted PassState)) β} (hx : Shifts j x)
    (hf : ∀ a, Shifts k (f a)) : Shifts (j + k) (x >>= f) := by
  intro w b v h
  rw [outcome_bind] at h
  rcases hs : outcome x w with ⟨e | a, u⟩ <;> rw [hs] at h
  · cases h
  · rw [hf a u b v h, hx w a u hs, Int.add_assoc]

theorem sequential :
    Sequential (m := ExceptT Failure (StateM (Acted PassState))) fun _ => Shifts 0 :=
  ⟨pure, fun hx hf => by simpa using bind hx hf⟩

theorem quiet {x : PassM α} (hx : Appends (fun e => e.renderings = 0) x) :
    Shifts 0 (Acted.quiet x) := by
  intro w a v h
  obtain ⟨new, hnew, hnone⟩ := hx w.state
  obtain rfl : (outcome (Acted.quiet x) w).2 = v := congrArg Prod.snd h
  show (w.acts.count .begins : Int) - renderings (outcome x w.state).2.events = _
  rw [hnew, renderings_append, renderings_eq_zero hnone, Nat.add_zero, Int.add_zero]
  rfl

theorem begins : Shifts 1 (Acted.act .begins) := by
  intro w a v h
  cases h
  simp only [Acted.surplus, List.count_append, List.count_singleton_self]
  omega

theorem act {a : Act} (ha : a ≠ .begins) : Shifts 0 (Acted.act a) := by
  intro w u v h
  cases h
  simp [Acted.surplus, List.count_append, ha]

theorem noticed (e : Event) : Shifts (-e.renderings) (Acted.noticed notice e) := by
  have hquiet (e : Event) : Shifts (-e.renderings) (Acted.quiet (notice e)) := by
    intro w a v h
    cases h
    show (w.acts.count .begins : Int) - renderings (w.state.events ++ [e]) = _
    rw [renderings_append, Acted.surplus]
    simp [renderings]
    omega
  unfold Acted.noticed
  split
  · next limit =>
    have hlimit := bind (act (a := .limits) (by decide)) fun _ => hquiet (.iterationLimit limit)
    rwa [Int.zero_add] at hlimit
  · exact hquiet e

variable (p : Pass)

theorem renderTag (tag : Tag) : Shifts 0 (Acted.quiet (p.renderTag tag)) := by
  refine quiet ((p.appends_renderTag tag).mono fun e he => ?_)
  rcases he with he | he
  · cases e <;> first | rfl | cases he
  · cases e <;> first | rfl | cases he

theorem testBranch (c : List Char) : Shifts 0 (Acted.quiet (p.testBranch c)) := by
  refine quiet ((p.appends_testBranch c).mono fun e he => ?_)
  cases e <;> first | rfl | cases he

theorem reduceActing (limit : Nat) (text : List Char) :
    Shifts 0 (reduceActing (fun c => Acted.quiet (p.testBranch c)) limit text) := by
  induction limit generalizing text with
  | zero =>
    cases hb : Block.find? text with
    | none =>
      rw [reduceActing_of_none hb]
      exact pure _
    | some b =>
      rw [reduceActing_zero hb]
      exact pure _
  | succ limit ih =>
    cases hb : Block.find? text with
    | none =>
      rw [reduceActing_of_none hb]
      exact pure _
    | some b =>
      rw [reduceActing_succ hb]
      exact sequential.bind (act (by decide)) fun _ =>
        sequential.bind (sequential.chooseBody (testBranch p) b.branches) fun body => ih _

theorem reduceBlocksActing (limit : Int) (text : List Char) :
    Shifts 1 (reduceBlocksActing (Acted.handlers p.handlers) limit text) := by
  have hnotice (e : Event) (he : e.renderings = 0) :
      Shifts 0 ((Acted.handlers p.handlers).notice e) := by
    have := noticed e
    rwa [he] at this
  refine bind (k := 0) begins fun _ => ?_
  refine sequential.bind (reduceActing p limit.toNat text) fun r => ?_
  obtain ⟨reduced, done⟩ := r
  cases done with
  | false => exact sequential.bind (hnotice _ rfl) fun _ => pure reduced
  | true =>
    refine sequential.bind ?_ fun _ => pure reduced
    unfold noticeStray
    split
    · exact hnotice _ rfl
    · exact pure ()

/-- A rendering begins a reduction for the text and for every text that it renders for a
    fallback. -/
theorem renderActing (limit : Int) (depth : Nat) (text : List Char) :
    Shifts 1 (renderActing (Acted.handlers p.handlers) p.keywords limit depth text) := by
  induction depth generalizing text with
  | zero => exact bind (k := 0) begins fun _ => pure text
  | succ depth ih =>
    refine bind (k := 0) (reduceBlocksActing p limit text) fun reduced => ?_
    refine sequential.substitute (renderTag p) (fun form => ?_) reduced
    -- the reductions of the tag and the body, less those that the event stands for
    have hfallback (value : List Char) :
        Shifts (-1) ((Acted.handlers p.handlers).notice (.fallbackTried value.isEmpty) >>= fun _ =>
          if value.isEmpty then
            Render.renderActing (Acted.handlers p.handlers) p.keywords limit depth form.body
          else Pure.pure value) := by
      cases value.isEmpty with
      | true => exact bind (noticed (.fallbackTried true)) fun _ => ih form.body
      | false => exact bind (noticed (.fallbackTried false)) fun _ => pure value
    exact bind (ih form.tagText) hfallback

end Shifts

/-! ## Within the limit -/

/-- Whether the acts keep to the limit: at most so many blocks are reduced in all, and none after
    the limit has been noticed. -/
structure WithinLimit (limit : Nat) (acts : List Act) : Prop where
  count_le : acts.count .reduces ≤ limit
  none_after : acts.Pairwise fun a b => a = .limits → b ≠ .reduces

instance (limit : Nat) (acts : List Act) : Decidable (WithinLimit limit acts) :=
  decidable_of_iff (acts.count .reduces ≤ limit ∧
    acts.Pairwise fun a b => a = .limits → b ≠ .reduces) ⟨fun h => ⟨h.1, h.2⟩, fun h => ⟨h.1, h.2⟩⟩

/-- One reduction keeps to the limit, whatever reductions without steps follow. -/
theorem IsLoop.withinLimit {limit : Nat} {loop more : List Act} (h : IsLoop limit loop)
    (hmore : ∀ a ∈ more, a = .begins) : WithinLimit limit (loop ++ more) := by
  have hnone : Act.reduces ∉ more := fun hmem => by cases hmore _ hmem
  have hcount : more.count .reduces = 0 := List.count_eq_zero.2 hnone
  have hafter {a : Act} {b : Act} (hb : b ∈ more) : a = .limits → b ≠ .reduces := by
    rintro - rfl
    exact hnone hb
  have hpairs : more.Pairwise fun a b => a = .limits → b ≠ .reduces :=
    List.pairwise_of_forall_mem_list fun _ _ _ hb => hafter hb
  cases h with
  | @done steps hle =>
    constructor
    · simpa [List.count_append, List.count_replicate, hcount] using hle
    · rw [List.cons_append, List.pairwise_cons, List.pairwise_append]
      refine ⟨fun _ _ h => (by cases h), ?_, hpairs, fun a ha b hb => hafter hb⟩
      exact List.pairwise_replicate.2 (.inr fun h => by cases h)
  | limited =>
    constructor
    · simp [List.count_append, hcount]
    · rw [List.cons_append, List.pairwise_cons, List.append_assoc, List.pairwise_append]
      refine ⟨fun _ _ h => (by cases h), ?_, ?_, fun a ha b hb h => ?_⟩
      · exact List.pairwise_replicate.2 (.inr fun h => by cases h)
      · exact List.pairwise_cons.2 ⟨fun _ hb => hafter hb, hpairs⟩
      · rw [(List.mem_replicate.1 ha).2] at h
        cases h

section Fragments

variable {h : Handlers (ExceptT ε (StateM σ))} {ks : Keywords} {text : List Char}

/-- Whether a text has neither blocks nor fallbacks. -/
def IsFlat (ks : Keywords) (text : List Char) : Prop :=
  Block.find? text = none ∧ fallbackForms ks text = []

/-- Replacing the tags of a text without fallbacks records nothing. -/
theorem adds_substitute (hnil : fallbackForms ks text = [])
    (renderFallback : FallbackForm → ExceptT ε (StateM (Acted σ)) (List Char)) :
    Adds (fun as => as = [])
      (substitute ks (Acted.handlers h).renderTag renderFallback text) := by
  rw [substitute_of_fallbackForms_eq_nil hnil _ renderFallback fun _ => pure []]
  exact Adds.nothing.substitute (fun tag => .quiet (h.renderTag tag))
    (fun _ => Adds.nothing.pure []) text

/-- Of a text without blocks and fallbacks only the beginning of a reduction is recorded. -/
theorem adds_renderActing_of_isFlat (hflat : IsFlat ks text) (limit : Int) (depth : Nat) :
    Adds (fun as => ∀ a ∈ as, a = .begins)
      (renderActing (Acted.handlers h) ks limit depth text) := by
  intro w
  refine ⟨[.begins], fun a ha => List.mem_singleton.1 ha, ?_⟩
  cases depth with
  | zero => rfl
  | succ depth =>
    rw [renderActing, reduceBlocksActing_of_none hflat.1]
    simp only [bind_assoc, pure_bind]
    exact (Adds.nothing.bind (adds_noticeStray text) fun _ =>
      adds_substitute hflat.2 _).acts_eq { w with acts := w.acts ++ [.begins] }

/-- If the fallbacks of the reduced text have neither blocks nor fallbacks in their parts, the
    record is that of one reduction, and of others without steps. -/
theorem acts_renderActing {limit : Int} {depth : Nat} {w : Acted σ}
    (hflat : ∀ reduced v,
      outcome (reduceBlocksActing (Acted.handlers h) limit text) w = (.ok reduced, v) →
        ∀ form ∈ fallbackForms ks reduced, IsFlat ks form.tagText ∧ IsFlat ks form.body) :
    ∃ loop more, IsLoop limit.toNat loop ∧ (∀ a ∈ more, a = .begins) ∧
      (outcome (renderActing (Acted.handlers h) ks limit (depth + 1) text) w).2.acts =
        w.acts ++ (loop ++ more) := by
  have hseq := Adds.sequential (ε := ε) (σ := σ) (E := fun as => ∀ a ∈ as, a = .begins)
    (fun _ ha => absurd ha List.not_mem_nil)
    fun ha hb a hmem => (List.mem_append.1 hmem).elim (ha a) (hb a)
  have hquiet {α : Type} {x : ExceptT ε (StateM (Acted σ)) α}
      (hx : Adds (fun as => as = []) x) : Adds (fun as => ∀ a ∈ as, a = .begins) x :=
    hx.mono fun as (has : as = []) => has ▸ fun _ ha => absurd ha List.not_mem_nil
  obtain ⟨loop, hloop, hacts⟩ := adds_reduceBlocksActing (h := h) limit text w
  rw [renderActing, outcome_bind]
  rcases hr : outcome (reduceBlocksActing (Acted.handlers h) limit text) w with ⟨e | reduced, v⟩ <;>
    rw [hr] at hacts
  · refine ⟨loop, [], hloop, fun _ ha => absurd ha List.not_mem_nil, ?_⟩
    rw [List.append_nil]
    exact hacts
  · have hrest : Adds (fun as => ∀ a ∈ as, a = .begins)
        (substitute ks (Acted.handlers h).renderTag (fun form => do
          let value ← renderActing (Acted.handlers h) ks limit depth form.tagText
          (Acted.handlers h).notice (.fallbackTried value.isEmpty)
          if value.isEmpty then renderActing (Acted.handlers h) ks limit depth form.body
          else return value) reduced) := by
      refine hseq.replaceFound fun f hf => ?_
      obtain ⟨lead, item, own⟩ := f
      cases item with
      | tag form => exact hquiet (.quiet (h.renderTag _))
      | marker mk =>
        exact hseq.substituteTags (fun tag => hquiet (.quiet (h.renderTag tag))) own
      | fallback form =>
        obtain ⟨htag, hbody⟩ := hflat reduced v hr form (mem_fallbackForms.2 ⟨_, hf, rfl⟩)
        refine hseq.bind (adds_renderActing_of_isFlat htag limit depth) fun value => ?_
        refine hseq.bind (hquiet (.noticed h.notice fun _ he => by cases he)) fun _ => ?_
        split
        · exact adds_renderActing_of_isFlat hbody limit depth
        · exact hseq.pure value
    obtain ⟨more, hmore, hv⟩ := hrest v
    refine ⟨loop, more, hloop, hmore, ?_⟩
    rw [← List.append_assoc, ← hacts]
    exact hv

end Fragments

/-! ## Passes -/

namespace Pass

/-- The rendering of a pass with its reductions recorded. -/
def renderActing (p : Pass) (text : List Char) :
    ExceptT Failure (StateM (Acted PassState)) (List Char) :=
  Render.renderActing (Acted.handlers p.handlers) p.keywords p.limit (text.length + 1) text

/-- What a pass does with blocks. -/
def actsOf (p : Pass) (text : List Char) (s : PassState) : List Act :=
  (outcome (p.renderActing text) ⟨s, []⟩).2.acts

/-- A pass with its reductions recorded is the pass. -/
theorem mirrors_render_of_renderActing (p : Pass) (text : List Char) :
    Mirrors Acted.state (p.renderActing text) (p.render text) :=
  Mirrors.renderActing p.keywords p.limit (text.length + 1) text

section Acts

variable {p : Pass} {text : List Char} {s : PassState}

/-- What a pass does with blocks is a row of reductions that keep to the limit. -/
theorem loops_actsOf : Loops p.limit.toNat (p.actsOf text s) := by
  obtain ⟨new, hnew, hacts⟩ := adds_renderActing (h := p.handlers) p.keywords p.limit
    (text.length + 1) text ⟨s, []⟩
  rwa [actsOf, renderActing, hacts]

/-- There is one reduction for the template and one for each rendering in a fallback. -/
theorem count_begins_actsOf {out : List Char} {t : PassState}
    (hout : outcome (p.render text) s = (.ok out, t)) :
    (p.actsOf text s).count .begins + renderings s.events = 1 + renderings t.events := by
  have hsame := p.mirrors_render_of_renderActing text ⟨s, []⟩
  change outcome (p.render text) s = _ at hsame
  rw [hout] at hsame
  obtain ⟨hanswer, rfl⟩ := Prod.mk.inj hsame
  have hshifts : ((p.actsOf text s).count .begins : Int) -
      renderings (outcome (p.renderActing text) ⟨s, []⟩).2.state.events =
        0 - renderings s.events + 1 :=
    Shifts.renderActing p p.limit (text.length + 1) text ⟨s, []⟩ out _
      (Prod.ext hanswer.symm rfl)
  omega

/-- A pass keeps to the limit as a whole if the fallbacks of the reduced template have nothing
    to reduce. -/
theorem withinLimit_actsOf {names : List String} (hks : p.keywords.Spells names)
    (h : ∀ reduced t, outcome (reduceBlocks p.testBranch notice p.limit text) s = (.ok reduced, t) →
      ∀ form ∈ fallbackForms p.keywords reduced, Block.find? form.tagText = none ∧
        (Block.find? reduced = none ∨ Block.find? form.body = none)) :
    WithinLimit p.limit.toNat (p.actsOf text s) := by
  have hflat : ∀ reduced v,
      outcome (reduceBlocksActing (Acted.handlers p.handlers) p.limit text) ⟨s, []⟩ =
        (.ok reduced, v) → ∀ form ∈ fallbackForms p.keywords reduced,
          IsFlat p.keywords form.tagText ∧ IsFlat p.keywords form.body := by
    intro reduced v hr form hform
    have hreduced := Mirrors.reduceBlocksActing (h := p.handlers) p.limit text ⟨s, []⟩
    rw [hr] at hreduced
    obtain ⟨htag, hbody⟩ := h reduced v.state hreduced form hform
    have htagForms := fallbackForms_of_isTag hks (FallbackForm.isTag_tagText hks hform)
    exact ⟨⟨htag, htagForms⟩, hbody.elim (FallbackForm.find?_body hform) id,
      fallbackForms_body hform⟩
  obtain ⟨loop, more, hloop, hmore, hacts⟩ := acts_renderActing hflat
  rw [actsOf, renderActing, hacts]
  exact hloop.withinLimit hmore

end Acts

/-- The limit holds for every text that is rendered, and each fallback renders one or two.

    A pass with its reductions recorded is the pass.  The record is a row of reductions, each with
    at most as many steps as the limit allows; there is one for the template, one for the tag of
    every fallback, and one for its body if that is rendered.  The whole pass keeps to the limit,
    and reduces nothing after it has been noticed, if no fallback of the reduced template has a
    block in its tag, and none in its body unless the reduced template has no block at all. -/
theorem reductions_within_limit (p : Pass) (text : List Char) (s : PassState) :
    outcome (p.render text) s = ((outcome (p.renderActing text) ⟨s, []⟩).1,
      (outcome (p.renderActing text) ⟨s, []⟩).2.state) ∧
    Loops p.limit.toNat (p.actsOf text s) ∧
    (p.actsOf text s).count .reduces ≤ p.limit.toNat * (p.actsOf text s).count .begins ∧
    (∀ out t, outcome (p.render text) s = (.ok out, t) →
      (p.actsOf text s).count .begins + renderings s.events = 1 + renderings t.events) ∧
    ∀ names, p.keywords.Spells names →
      (∀ reduced t, outcome (reduceBlocks p.testBranch notice p.limit text) s = (.ok reduced, t) →
        ∀ form ∈ fallbackForms p.keywords reduced, Block.find? form.tagText = none ∧
          (Block.find? reduced = none ∨ Block.find? form.body = none)) →
      WithinLimit p.limit.toNat (p.actsOf text s) :=
  ⟨p.mirrors_render_of_renderActing text ⟨s, []⟩, loops_actsOf, loops_actsOf.count_le,
    fun _ _ hout => count_begins_actsOf hout, fun _ hks h => withinLimit_actsOf hks h⟩

/-! ## A limit of one -/

/-- A pass with a limit of one, over two sources. -/
def strictPass : Pass :=
  { ofSources [sourceOf "custom" (.text "1"), sourceOf "native" (.text "")] .empty with limit := 1 }

theorem spells_strictPass : strictPass.keywords.Spells ["custom", "native"] where
  mem_iff k := by simp [strictPass, ofSources, sourceOf, eq_comm]
  isPlainWord := by decide

/-- Two blocks, and a fallback without blocks. -/
def twoBlocks : List Char :=
  "[if:%custom:a% == '1']A[/if][if:%custom:a% == '1']B[/if]%native:b%[fallback]C[/fallback]".toList

/-- The second block stays. -/
theorem reductions_within_limit_twoBlocks :
    Block.find? twoBlocks ≠ none ∧
    (outcome (strictPass.render twoBlocks) {}).1 = .ok "A[if:1 == '1']B[/if]C".toList ∧
    WithinLimit 1 (strictPass.actsOf twoBlocks {}) := by
  have hreduced : (outcome (reduceBlocks strictPass.testBranch notice 1 twoBlocks) {}).1 =
      .ok "A[if:%custom:a% == '1']B[/if]%native:b%[fallback]C[/fallback]".toList := by cbv
  have hforms : fallbackForms strictPass.keywords
      "A[if:%custom:a% == '1']B[/if]%native:b%[fallback]C[/fallback]".toList =
        [⟨"%native:b%".toList, ['C']⟩] := by decide +kernel
  refine ⟨by decide +kernel, by cbv, ?_⟩
  refine (reductions_within_limit strictPass twoBlocks {}).2.2.2.2 _ spells_strictPass ?_
  intro reduced t hr form hform
  change outcome (reduceBlocks strictPass.testBranch notice 1 twoBlocks) {} = _ at hr
  rw [hr] at hreduced
  cases hreduced
  rw [hforms, List.mem_singleton] at hform
  subst hform
  exact ⟨by decide +kernel, .inr (by decide +kernel)⟩

/-- A block, and a fallback with a block in its body. -/
def blockInBody : List Char :=
  ("[if:%custom:a% == '1']A[/if]" ++
    "%native:b%[fallback][if:%custom:a% == '1']B[/if][/fallback]").toList

/-- The block in the body is reduced after the limit has been noticed. -/
theorem actsOf_blockInBody :
    (outcome (strictPass.render blockInBody) {}).1 = .ok "AB".toList ∧
    strictPass.actsOf blockInBody {} = [.begins, .reduces, .limits, .begins, .begins, .reduces] := by
  constructor
  · cbv
  · cbv

/-- A pass does not keep to the limit as a whole. -/
theorem not_forall_within_limit :
    ¬ ∀ (p : Pass) (text : List Char), 0 ≤ p.limit →
      WithinLimit p.limit.toNat (p.actsOf text {}) := by
  intro h
  have hwithin := (h strictPass blockInBody (by decide)).count_le
  rw [actsOf_blockInBody.2] at hwithin
  exact absurd hwithin (by decide)

end Pass
end RecordTemplate.Render
