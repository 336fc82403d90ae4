/-
  RecordTemplate.Proofs.Conditional.Tree

  Conditional blocks as trees.  A tree is printed as the text of a template, and it is evaluated
  by recursion: a block becomes the evaluated body of its first branch that is an `[else]` or
  whose condition holds.

    * `Tree.text` — the text of a tree.
    * `Tree.evaluate` — the direct evaluation, for any way to test a condition.
    * `Tree.evaluate_block` — one block at a time: the tree that is chosen is put in front of
      what follows the block.  This is the step that a reduction of the text makes.
-/

import RecordTemplate.Proofs.Sequential
import RecordTemplate.Template.Marker

namespace RecordTemplate.Template

open RecordTemplate.Render

/-! ## Trees -/

/-- A text in which no marker can begin. -/
abbrev Literal := { s : List Char // '[' ∉ s }

/-- A condition as it can stand in a marker. -/
abbrev Guard := { c : List Char // c ≠ [] ∧ ']' ∉ c }

mutual

/-- Literals and conditional blocks, one after the other. -/
inductive Tree where
  | nil
  | literal (s : Literal) (rest : Tree)
  | block (guard : Guard) (body : Tree) (more : Branches) (rest : Tree)

/-- The branches of a block after its first one. -/
inductive Branches where
  | nil
  /-- A branch under `[elseif:guard]`, or `[else if:guard]` if it is spaced. -/
  | elseIf (spaced : Bool) (guard : Guard) (body : Tree) (more : Branches)
  | otherwise (body : Tree) (more : Branches)

end

/-! ## Printing -/

/-- The text of a marker; only `else if` can be spaced. -/
def Marker.print (spaced : Bool) : Marker → List Char
  | .ifOpen c => ifStart ++ c ++ [']']
  | .elseIf c => elseStart ++ (if spaced then [' '] else []) ++ ifWord ++ c ++ [']']
  | .otherwise => elseStart ++ [']']
  | .close => closeMark

mutual

/-- The text of a tree. -/
def Tree.text : Tree → List Char
  | .nil => []
  | .literal s rest => s.1 ++ rest.text
  | .block g body more rest =>
    (Marker.ifOpen g.1).print false ++ (body.text ++ (more.text ++
      (Marker.close.print false ++ rest.text)))

/-- The text of the later branches of a block. -/
def Branches.text : Branches → List Char
  | .nil => []
  | .elseIf spaced g body more => (Marker.elseIf g.1).print spaced ++ (body.text ++ more.text)
  | .otherwise body more => Marker.otherwise.print false ++ (body.text ++ more.text)

end

/-- A tree followed by another one. -/
def Tree.append : Tree → Tree → Tree
  | .nil, u => u
  | .literal s rest, u => .literal s (rest.append u)
  | .block g body more rest, u => .block g body more (rest.append u)

theorem Tree.text_append (t u : Tree) : (t.append u).text = t.text ++ u.text :=
  match t with
  | .nil => rfl
  | .literal s rest => by
    rw [append, text, rest.text_append u, text, List.append_assoc]
  | .block g body more rest => by
    rw [append, text, rest.text_append u, text]
    simp only [List.append_assoc]

/-! ## Evaluation -/

section Evaluation

variable {m : Type → Type} [Monad m]

mutual

/-- The direct evaluation of a tree.  Each block that is reached is announced by `enter`. -/
def Tree.evaluate (enter : m Unit) (test : List Char → m Bool) : Tree → m (List Char)
  | .nil => return []
  | .literal s rest => do return s.1 ++ (← rest.evaluate enter test)
  | .block g body more rest => do
    enter
    let chosen ←
      if ← test g.1 then body.evaluate enter test else more.evaluate enter test
    return chosen ++ (← rest.evaluate enter test)

/-- The evaluated body of the first branch whose turn it is, and nothing if there is none. -/
def Branches.evaluate (enter : m Unit) (test : List Char → m Bool) : Branches → m (List Char)
  | .nil => return []
  | .elseIf _ g body more => do
    if ← test g.1 then body.evaluate enter test else more.evaluate enter test
  | .otherwise body _ => body.evaluate enter test

end

/-- The body of the first of the later branches whose turn it is. -/
def Branches.choose (test : List Char → m Bool) : Branches → m Tree
  | .nil => return .nil
  | .elseIf _ g body more => do if ← test g.1 then return body else more.choose test
  | .otherwise body _ => return body

/-- The body that a block is replaced by. -/
def Tree.choose (test : List Char → m Bool) (g : Guard) (body : Tree) (more : Branches) :
    m Tree := do
  if ← test g.1 then return body else more.choose test

variable [LawfulMonad m] {enter : m Unit} {test : List Char → m Bool}

theorem Tree.evaluate_append (t u : Tree) :
    (t.append u).evaluate enter test =
      t.evaluate enter test >>= fun a => u.evaluate enter test >>= fun b => pure (a ++ b) :=
  match t with
  | .nil => by simp [append, evaluate]
  | .literal s rest => by
    simp only [append, evaluate, rest.evaluate_append u, bind_assoc, pure_bind,
      List.append_assoc]
  | .block g body more rest => by
    simp only [append, evaluate, rest.evaluate_append u, bind_assoc, pure_bind]
    -- past the block announced and its condition tested
    congr 1
    funext _
    congr 1
    funext holds
    cases holds <;> simp only [Bool.false_eq_true, if_true, if_false, bind_assoc, pure_bind,
      List.append_assoc]

/-- Evaluating the later branches is choosing one and evaluating its body. -/
theorem Branches.evaluate_eq_choose (more : Branches) :
    more.evaluate enter test = more.choose test >>= fun t => t.evaluate enter test :=
  match more with
  | .nil => by simp [evaluate, choose, Tree.evaluate]
  | .elseIf _ g body more => by
    simp only [evaluate, choose, bind_assoc, more.evaluate_eq_choose]
    congr 1
    funext holds
    cases holds <;> simp
  | .otherwise body _ => by simp [evaluate, choose]

/-- A block is evaluated by putting the body that is chosen in front of what follows. -/
theorem Tree.evaluate_block (g : Guard) (body : Tree) (more : Branches) (rest : Tree) :
    (Tree.block g body more rest).evaluate enter test =
      enter >>= fun _ => choose test g body more >>= fun t =>
        (t.append rest).evaluate enter test := by
  simp only [evaluate, choose, bind_assoc, more.evaluate_eq_choose, Tree.evaluate_append]
  -- past the block announced and its condition tested
  congr 1
  funext _
  congr 1
  funext holds
  cases holds <;> simp

end Evaluation
end RecordTemplate.Template
