/-
  RecordTemplate.Proofs.Conditional.PairCount

  How many pairs markers make, told by their roles alone (`pairCount`).

  Markers that are matched among themselves can be taken out, with their pairs
  (`pairCount_balanced`).  Leaving out any other markers makes no new pair (`pairCount_sublist`), and
  it takes away no more pairs than opening and closing markers that are left out
  (`pairCount_le_filter`).
-/

import RecordTemplate.Proofs.Conditional.Matching

namespace RecordTemplate.Template

/-- How many pairs markers make, if so many blocks are open before them. -/
def pairCount : Nat → List Role → Nat
  | _, [] => 0
  | depth, .opens :: rs => pairCount (depth + 1) rs
  | 0, .closes :: rs => pairCount 0 rs
  | depth + 1, .closes :: rs => pairCount depth rs + 1
  | depth, .separates :: rs => pairCount depth rs

theorem pairCount_separates (depth : Nat) (rs : List Role) :
    pairCount depth (.separates :: rs) = pairCount depth rs := by
  cases depth <;> rfl

theorem length_pairsFrom (stack ts : List Token) :
    (pairsFrom stack ts).length = pairCount stack.length (ts.map Token.role) := by
  induction ts generalizing stack with
  | nil => rfl
  | cons t ts ih =>
    rw [List.map_cons]
    cases hrole : t.role with
    | opens => rw [pairsFrom_opens _ _ hrole, ih]; rfl
    | closes =>
      cases stack with
      | nil => rw [pairsFrom_closes_nil _ hrole, ih]; rfl
      | cons o stack => rw [pairsFrom_closes _ _ hrole, List.length_cons, ih]; rfl
    | separates => rw [pairsFrom_separates _ _ hrole, ih, pairCount_separates]

theorem length_matchedPairs (text : List Char) :
    (matchedPairs text).length = pairCount 0 (roles text) :=
  length_pairsFrom [] (markerTokens text)

/-! ## Markers left out -/

/-- A block that is open besides can be closed by one marker at most. -/
theorem pairCount_succ (depth : Nat) (rs : List Role) :
    pairCount depth rs ≤ pairCount (depth + 1) rs ∧
      pairCount (depth + 1) rs ≤ pairCount depth rs + 1 := by
  induction rs generalizing depth with
  | nil => exact ⟨Nat.le_refl _, Nat.zero_le _⟩
  | cons r rs ih =>
    cases r with
    | opens => exact ih (depth + 1)
    | closes =>
      cases depth with
      | zero => exact ⟨Nat.le_succ _, Nat.le_refl _⟩
      | succ depth =>
        obtain ⟨hless, hmore⟩ := ih depth
        exact ⟨Nat.succ_le_succ hless, Nat.succ_le_succ hmore⟩
    | separates =>
      rw [pairCount_separates, pairCount_separates]
      exact ih depth

/-- A marker in front loses no pair, and makes one at most. -/
theorem pairCount_cons (depth : Nat) (r : Role) (rs : List Role) :
    pairCount depth rs ≤ pairCount depth (r :: rs) ∧
      pairCount depth (r :: rs) ≤ pairCount depth rs + if r = .separates then 0 else 1 := by
  cases r with
  | opens => exact pairCount_succ depth rs
  | closes =>
    cases depth with
    | zero => exact ⟨Nat.le_refl _, Nat.le_succ _⟩
    | succ depth =>
      obtain ⟨hless, hmore⟩ := pairCount_succ depth rs
      exact ⟨hmore, Nat.succ_le_succ hless⟩
  | separates =>
    rw [pairCount_separates]
    exact ⟨Nat.le_refl _, Nat.le_refl _⟩

/-- Leaving out markers makes no new pair. -/
theorem pairCount_sublist {rs rs' : List Role} (h : rs.Sublist rs') (depth : Nat) :
    pairCount depth rs ≤ pairCount depth rs' := by
  induction h generalizing depth with
  | slnil => exact Nat.le_refl _
  | cons r _ ih => exact Nat.le_trans (ih depth) (pairCount_cons depth r _).1
  | cons_cons r _ ih =>
    cases r with
    | opens => exact ih (depth + 1)
    | closes =>
      cases depth with
      | zero => exact ih 0
      | succ depth => exact Nat.succ_le_succ (ih depth)
    | separates =>
      rw [pairCount_separates, pairCount_separates]
      exact ih depth

/-- Leaving out markers takes away one pair at most for each of them that opens or closes a
    block. -/
theorem pairCount_le_filter (lost : Token → Prop) [DecidablePred lost] (depth : Nat)
    (ts : List Token) :
    pairCount depth (ts.map Token.role) ≤
      pairCount depth ((ts.filter fun t => ¬lost t).map Token.role) +
        (ts.filter fun t => t.role ≠ .separates ∧ lost t).length := by
  induction ts generalizing depth with
  | nil => exact Nat.zero_le _
  | cons t ts ih =>
    by_cases hlost : lost t
    · have hmore := (pairCount_cons depth t.role (ts.map Token.role)).2
      have hrest := ih depth
      rw [List.map_cons, List.filter_cons_of_neg (by simpa using hlost)]
      by_cases hrole : t.role = .separates
      · rw [List.filter_cons_of_neg (by simp [hrole])]
        rw [if_pos hrole] at hmore
        omega
      · rw [List.filter_cons_of_pos (by simp [hrole, hlost]), List.length_cons]
        rw [if_neg hrole] at hmore
        omega
    · rw [List.map_cons, List.filter_cons_of_pos (by simpa using hlost), List.map_cons,
        List.filter_cons_of_neg (by simp [hlost])]
      cases hrole : t.role with
      | opens => exact ih (depth + 1)
      | closes =>
        cases depth with
        | zero => exact ih 0
        | succ depth =>
          have hrest := ih depth
          simp only [pairCount]
          omega
      | separates =>
        rw [pairCount_separates, pairCount_separates]
        exact ih depth

/-! ## Balanced markers -/

/-- Markers that never close more than is open count apart from what follows them. -/
theorem pairCount_append (depth : Nat) {n : Nat} {rs : List Role}
    (h : depthAfter depth rs = some n) (below : Nat) (rs' : List Role) :
    depthAfter (depth + below) (rs ++ rs') = depthAfter (n + below) rs' ∧
      pairCount (depth + below) (rs ++ rs') =
        pairCount depth rs + pairCount (n + below) rs' := by
  induction rs generalizing depth with
  | nil =>
    cases h
    exact ⟨rfl, (Nat.zero_add _).symm⟩
  | cons r rs ih =>
    cases r with
    | opens =>
      have hrest := ih (depth + 1) h
      rw [Nat.add_right_comm] at hrest
      exact hrest
    | closes =>
      cases depth with
      | zero => cases h
      | succ depth =>
        obtain ⟨hdepth, hcount⟩ := ih depth h
        rw [Nat.add_right_comm]
        refine ⟨hdepth, ?_⟩
        simp only [List.cons_append, pairCount, hcount]
        omega
    | separates =>
      rw [depthAfter_separates] at h
      rw [List.cons_append, depthAfter_separates, pairCount_separates, pairCount_separates]
      exact ih depth h

/-- Balanced markers can be taken out with their pairs. -/
theorem pairCount_balanced {rs : List Role} (h : depthAfter 0 rs = some 0) (depth : Nat)
    (us vs : List Role) :
    pairCount depth (us ++ (rs ++ vs)) = pairCount 0 rs + pairCount depth (us ++ vs) := by
  induction us generalizing depth with
  | nil =>
    have hcount := (pairCount_append 0 h depth vs).2
    rw [Nat.zero_add] at hcount
    exact hcount
  | cons u us ih =>
    cases u with
    | opens => exact ih (depth + 1)
    | closes =>
      cases depth with
      | zero => exact ih 0
      | succ depth =>
        have hrest := ih depth
        simp only [List.cons_append, pairCount]
        omega
    | separates =>
      rw [List.cons_append, pairCount_separates, List.cons_append, pairCount_separates]
      exact ih depth

/-- A block around balanced markers is balanced, and has one pair more. -/
theorem pairCount_block {rs : List Role} (h : depthAfter 0 rs = some 0) :
    depthAfter 0 (.opens :: (rs ++ [.closes])) = some 0 ∧
      pairCount 0 (.opens :: (rs ++ [.closes])) = pairCount 0 rs + 1 :=
  pairCount_append 0 h 1 [.closes]

end RecordTemplate.Template
