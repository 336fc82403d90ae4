/-
  RecordTemplate.Proofs.Conditional.Matching

  Opening and closing markers matched with a stack: each `[/if]` closes the most recent `[if:]`
  that is still open, and one with nothing open is ignored (`matchedPairs`).

  How deep markers go is told without their places (`depthAfter`).  Markers that never close more
  than is open have nothing to do with what is below on the stack (`stack_of_depthAfter`), and
  those that come back to the depth at which they start leave it as it was (`Balanced`).
-/

import RecordTemplate.Proofs.Conditional.Blocks
import RecordTemplate.Proofs.Conditional.Markers

namespace RecordTemplate.Template

/-! ## Roles of markers -/

/-- What a marker does to the blocks that are open: it opens one, it closes one, or it separates
    two branches of one. -/
inductive Role where
  | opens
  | closes
  | separates
  deriving DecidableEq, Repr

def Marker.role : Marker → Role
  | .ifOpen _ => .opens
  | .close => .closes
  | .elseIf _ | .otherwise => .separates

/-- The role of a marker.  Other tokens are not asked for it. -/
def Token.role (t : Token) : Role :=
  match t.kind with
  | .marker m => m.role
  | _ => .separates

/-- The roles of the markers of a text. -/
def roles (s : List Char) : List Role := (markerTokens s).map Token.role

/-- They are the same wherever the text stands. -/
theorem map_role_markersFrom (p : Nat) (s : List Char) :
    (markersFrom p s).map Token.role = roles s := by
  have hkinds := congrArg (List.map fun kind => Token.role ⟨kind, [], 0⟩) (kind_markersFrom p 0 s)
  rw [List.map_map, List.map_map] at hkinds
  rw [roles, markerTokens_eq]
  exact hkinds

/-! ## Matching with a stack -/

/-- The pairs that tokens make.  On the stack are the opening markers that are still open, the most
    recent one first. -/
def pairsFrom : List Token → List Token → List (Token × Token)
  | _, [] => []
  | stack, t :: ts =>
    match t.role, stack with
    | .opens, stack => pairsFrom (t :: stack) ts
    | .closes, o :: stack => (o, t) :: pairsFrom stack ts
    | .closes, [] => pairsFrom [] ts
    | .separates, stack => pairsFrom stack ts

section Step

variable {o t : Token} (stack ts : List Token)

theorem pairsFrom_opens (h : t.role = .opens) :
    pairsFrom stack (t :: ts) = pairsFrom (t :: stack) ts := by
  simp only [pairsFrom, h]

theorem pairsFrom_closes (h : t.role = .closes) :
    pairsFrom (o :: stack) (t :: ts) = (o, t) :: pairsFrom stack ts := by
  simp only [pairsFrom, h]

theorem pairsFrom_closes_nil (h : t.role = .closes) :
    pairsFrom [] (t :: ts) = pairsFrom [] ts := by
  simp only [pairsFrom, h]

theorem pairsFrom_separates (h : t.role = .separates) :
    pairsFrom stack (t :: ts) = pairsFrom stack ts := by
  simp only [pairsFrom, h]

end Step

/-- The pairs of an opening and a closing marker of a text. -/
def matchedPairs (text : List Char) : List (Token × Token) := pairsFrom [] (markerTokens text)

/-- The opening markers that are still open after some tokens. -/
def openAfter : List Token → List Token → List Token
  | stack, [] => stack
  | stack, t :: ts =>
    match t.role with
    | .opens => openAfter (t :: stack) ts
    | .closes => openAfter stack.tail ts
    | .separates => openAfter stack ts

theorem pairsFrom_append (stack ts ts' : List Token) :
    pairsFrom stack (ts ++ ts') = pairsFrom stack ts ++ pairsFrom (openAfter stack ts) ts' := by
  induction ts generalizing stack with
  | nil => rfl
  | cons t ts ih =>
    rw [List.cons_append, openAfter]
    cases hrole : t.role with
    | opens => rw [pairsFrom_opens _ _ hrole, pairsFrom_opens _ _ hrole, ih]
    | closes =>
      cases stack with
      | nil => rw [pairsFrom_closes_nil _ hrole, pairsFrom_closes_nil _ hrole, ih, List.tail_nil]
      | cons o stack =>
        rw [pairsFrom_closes _ _ hrole, pairsFrom_closes _ _ hrole, ih, List.cons_append,
          List.tail_cons]
    | separates => rw [pairsFrom_separates _ _ hrole, pairsFrom_separates _ _ hrole, ih]

/-- A pair is made of a marker that is open, or comes to be, and of a later one. -/
theorem mem_of_mem_pairsFrom {stack ts : List Token} {o c : Token}
    (h : (o, c) ∈ pairsFrom stack ts) : (o ∈ stack ∨ o ∈ ts) ∧ c ∈ ts := by
  induction ts generalizing stack with
  | nil => exact absurd h List.not_mem_nil
  | cons t ts ih =>
    cases hrole : t.role with
    | opens =>
      rw [pairsFrom_opens _ _ hrole] at h
      obtain ⟨ho, hc⟩ := ih h
      refine ⟨?_, List.mem_cons_of_mem t hc⟩
      rcases ho with ho | ho
      · rcases List.mem_cons.1 ho with rfl | ho
        · exact .inr List.mem_cons_self
        · exact .inl ho
      · exact .inr (List.mem_cons_of_mem t ho)
    | closes =>
      cases stack with
      | nil =>
        rw [pairsFrom_closes_nil _ hrole] at h
        obtain ⟨ho, hc⟩ := ih h
        exact ⟨ho.imp_right (List.mem_cons_of_mem t), List.mem_cons_of_mem t hc⟩
      | cons o' stack =>
        rw [pairsFrom_closes _ _ hrole] at h
        rcases List.mem_cons.1 h with hpair | h
        · cases hpair
          exact ⟨.inl List.mem_cons_self, List.mem_cons_self⟩
        · obtain ⟨ho, hc⟩ := ih h
          exact ⟨ho.imp (List.mem_cons_of_mem o') (List.mem_cons_of_mem t),
            List.mem_cons_of_mem t hc⟩
    | separates =>
      rw [pairsFrom_separates _ _ hrole] at h
      obtain ⟨ho, hc⟩ := ih h
      exact ⟨ho.imp_right (List.mem_cons_of_mem t), List.mem_cons_of_mem t hc⟩

/-- What is open, or comes to be, stays open or is matched. -/
theorem open_or_matched (stack : List Token) {ts : List Token} {o : Token}
    (h : o ∈ stack ∨ o ∈ ts ∧ o.role = .opens) :
    o ∈ openAfter stack ts ∨ ∃ c, (o, c) ∈ pairsFrom stack ts := by
  induction ts generalizing stack with
  | nil =>
    rcases h with h | ⟨h, -⟩
    · exact .inl h
    · exact absurd h List.not_mem_nil
  | cons t ts ih =>
    -- a token that opens nothing is not the one asked about
    have hlater (hrole : t.role ≠ .opens) : o ∈ stack ∨ o ∈ ts ∧ o.role = .opens := by
      refine h.imp_right fun ⟨hmem, hopens⟩ => ⟨?_, hopens⟩
      rcases List.mem_cons.1 hmem with rfl | hmem
      · exact absurd hopens hrole
      · exact hmem
    cases hrole : t.role with
    | opens =>
      simp only [openAfter, pairsFrom, hrole]
      refine ih (t :: stack) ?_
      rcases h with h | ⟨h, hopens⟩
      · exact .inl (List.mem_cons_of_mem t h)
      · rcases List.mem_cons.1 h with rfl | h
        · exact .inl List.mem_cons_self
        · exact .inr ⟨h, hopens⟩
    | closes =>
      have h' := hlater (by rw [hrole]; exact Role.noConfusion)
      cases stack with
      | nil =>
        simp only [openAfter, pairsFrom, hrole]
        exact ih [] h'
      | cons o' stack =>
        simp only [openAfter, pairsFrom, hrole, List.tail_cons]
        rcases h' with h' | h'
        · rcases List.mem_cons.1 h' with rfl | h'
          · exact .inr ⟨t, List.mem_cons_self⟩
          · exact (ih stack (.inl h')).imp_right fun ⟨c, hc⟩ => ⟨c, List.mem_cons_of_mem _ hc⟩
        · exact (ih stack (.inr h')).imp_right fun ⟨c, hc⟩ => ⟨c, List.mem_cons_of_mem _ hc⟩
    | separates =>
      simp only [openAfter, pairsFrom, hrole]
      exact ih stack (hlater (by rw [hrole]; exact Role.noConfusion))

/-! ## Depth -/

/-- How many blocks are open after markers, if none of those that are open before is missing when
    it is to be closed. -/
def depthAfter : Nat → List Role → Option Nat
  | depth, [] => some depth
  | depth, .opens :: rs => depthAfter (depth + 1) rs
  | 0, .closes :: _ => none
  | depth + 1, .closes :: rs => depthAfter depth rs
  | depth, .separates :: rs => depthAfter depth rs

theorem depthAfter_separates (depth : Nat) (rs : List Role) :
    depthAfter depth (.separates :: rs) = depthAfter depth rs := by
  cases depth <;> rfl

/-- Markers that never close more than is open have nothing to do with what is below on the
    stack. -/
theorem stack_of_depthAfter (stack : List Token) {ts : List Token} {n : Nat}
    (h : depthAfter stack.length (ts.map Token.role) = some n) (below : List Token) :
    openAfter (stack ++ below) ts = openAfter stack ts ++ below ∧
      pairsFrom (stack ++ below) ts = pairsFrom stack ts ∧ (openAfter stack ts).length = n := by
  induction ts generalizing stack with
  | nil => exact ⟨rfl, rfl, Option.some.inj h⟩
  | cons t ts ih =>
    rw [List.map_cons] at h
    cases hrole : t.role with
    | opens =>
      rw [hrole] at h
      simp only [openAfter, pairsFrom, hrole]
      exact ih (t :: stack) h
    | closes =>
      rw [hrole] at h
      cases stack with
      | nil => cases h
      | cons o stack =>
        obtain ⟨hopen, hpairs, hlength⟩ := ih stack h
        simp only [List.cons_append, openAfter, pairsFrom, hrole, List.tail_cons]
        exact ⟨hopen, by rw [hpairs], hlength⟩
    | separates =>
      rw [hrole, depthAfter_separates] at h
      simp only [openAfter, pairsFrom, hrole]
      exact ih stack h

/-- An opening marker that is never closed makes no pair. -/
theorem pairsFrom_unclosed {o : Token} {ts : List Token} {n : Nat} (ho : o.role = .opens)
    (h : depthAfter 0 (ts.map Token.role) = some n) :
    pairsFrom [] (o :: ts) = pairsFrom [] ts := by
  obtain ⟨-, hpairs, -⟩ := stack_of_depthAfter [] h [o]
  rw [pairsFrom_opens _ _ ho]
  exact hpairs

/-- Every closing marker finds a block that is open. -/
theorem matched_of_depthAfter (stack : List Token) {ts : List Token} {n : Nat}
    (h : depthAfter stack.length (ts.map Token.role) = some n) :
    ∀ c ∈ ts, c.role = .closes → ∃ o, (o, c) ∈ pairsFrom stack ts := by
  induction ts generalizing stack with
  | nil => exact fun c hc => absurd hc List.not_mem_nil
  | cons t ts ih =>
    intro c hc hcloses
    rw [List.map_cons] at h
    cases hrole : t.role with
    | opens =>
      rw [hrole] at h
      simp only [pairsFrom, hrole]
      rcases List.mem_cons.1 hc with rfl | hc
      · rw [hrole] at hcloses
        cases hcloses
      · exact ih (t :: stack) h c hc hcloses
    | closes =>
      rw [hrole] at h
      cases stack with
      | nil => cases h
      | cons o stack =>
        simp only [pairsFrom, hrole]
        rcases List.mem_cons.1 hc with rfl | hc
        · exact ⟨o, List.mem_cons_self⟩
        · obtain ⟨o', ho'⟩ := ih stack h c hc hcloses
          exact ⟨o', List.mem_cons_of_mem _ ho'⟩
    | separates =>
      rw [hrole, depthAfter_separates] at h
      simp only [pairsFrom, hrole]
      rcases List.mem_cons.1 hc with rfl | hc
      · rw [hrole] at hcloses
        cases hcloses
      · exact ih stack h c hc hcloses

/-- If no block is left open, every one is closed that is open at first or comes to be. -/
theorem matched_of_depthAfter_zero (stack : List Token) {ts : List Token} {o : Token}
    (h : depthAfter stack.length (ts.map Token.role) = some 0)
    (ho : o ∈ stack ∨ o ∈ ts ∧ o.role = .opens) : ∃ c, (o, c) ∈ pairsFrom stack ts := by
  obtain ⟨-, -, hlength⟩ := stack_of_depthAfter stack h []
  rcases open_or_matched stack ho with hopen | hmatched
  · rw [List.length_eq_zero_iff.1 hlength] at hopen
    exact absurd hopen List.not_mem_nil
  · exact hmatched

/-- Markers that are matched among themselves. -/
def Balanced (ts : List Token) : Prop := depthAfter 0 (ts.map Token.role) = some 0

namespace Balanced

variable {ts : List Token}

theorem openAfter_eq (h : Balanced ts) (stack : List Token) : openAfter stack ts = stack := by
  obtain ⟨hopen, -, hlength⟩ := stack_of_depthAfter [] h stack
  rw [List.nil_append, List.length_eq_zero_iff.1 hlength, List.nil_append] at hopen
  exact hopen

theorem pairsFrom_eq (h : Balanced ts) (stack : List Token) :
    pairsFrom stack ts = pairsFrom [] ts :=
  (stack_of_depthAfter [] h stack).2.1

/-- Behind a block the stack is what it was before it. -/
theorem pairsFrom_block {o c : Token} (h : Balanced ts) (ho : o.role = .opens)
    (hc : c.role = .closes) (stack later : List Token) :
    pairsFrom stack (o :: (ts ++ c :: later)) =
      pairsFrom [] ts ++ (o, c) :: pairsFrom stack later := by
  rw [pairsFrom_opens _ _ ho, pairsFrom_append, h.openAfter_eq, h.pairsFrom_eq,
    pairsFrom_closes _ _ hc]

/-- Each opening marker is matched. -/
theorem opener_matched (h : Balanced ts) {o : Token} (ho : o ∈ ts) (hopens : o.role = .opens) :
    ∃ c, (o, c) ∈ pairsFrom [] ts :=
  matched_of_depthAfter_zero [] h (.inr ⟨ho, hopens⟩)

/-- Each closing marker is matched. -/
theorem closer_matched (h : Balanced ts) {c : Token} (hc : c ∈ ts) (hcloses : c.role = .closes) :
    ∃ o, (o, c) ∈ pairsFrom [] ts :=
  matched_of_depthAfter [] h c hc hcloses

end Balanced

end RecordTemplate.Template
