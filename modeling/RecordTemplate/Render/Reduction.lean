/-
  RecordTemplate.Render.Reduction

  Conditional blocks reduced one at a time: the first block of a text is replaced by the body
  of the branch that is chosen, until no block is left or the limit is reached.  How a
  condition is tested is left open.
-/

import RecordTemplate.Render.Event
import RecordTemplate.Template.Block

namespace RecordTemplate.Render

open RecordTemplate.Template

variable {m : Type → Type} [Monad m]

/-! ## Conditions -/

/-- Whether a condition holds.  A malformed condition does not. -/
def evaluate (renderTag : List Char → m (List Char)) (notice : Event → m Unit)
    (text : List Char) : m Bool :=
  match Condition.parse? text with
  | none => do
    notice (.malformedCondition text)
    return false
  | some c => do
    let holds := c.operator.holds (← renderTag c.tagText) c.literal
    notice (.conditionDecided c holds)
    return holds

/-! ## Blocks -/

/-- The body of the first branch that is an `[else]` or whose condition holds, and nothing if
    there is none. -/
def chooseBody (test : List Char → m Bool) : List Branch → m (List Char)
  | [] => pure []
  | b :: bs =>
    match b.condition with
    | none => pure b.body
    | some c => do if ← test c then pure b.body else chooseBody test bs

/-- A text with the first block replaced by a body. -/
def splice (b : Block) (body : List Char) : List Char := b.before ++ body ++ b.after

/-- The text after at most `limit` reductions, and whether no block is left in it. -/
def reduce (test : List Char → m Bool) : Nat → List Char → m (List Char × Bool)
  | limit, text =>
    match Block.find? text with
    | none => pure (text, true)
    | some b =>
      match limit with
      -- a block is left, and the limit does not allow to reduce it
      | 0 => pure (text, false)
      | limit + 1 => do
        let body ← chooseBody test b.branches
        reduce test limit (splice b body)

/-- The first marker of a text that should have belonged to a block. -/
def strayMarker? (text : List Char) : Option (List Char) :=
  ((markerRule.scan text).found.find? fun f =>
    match f.item with
    | .ifOpen _ | .close => true
    | _ => false).map Found.text

/-- A text with its blocks reduced; what goes wrong is noticed. -/
def reduceBlocks (test : List Char → m Bool) (notice : Event → m Unit) (limit : Int)
    (text : List Char) : m (List Char) := do
  let (reduced, done) ← reduce test limit.toNat text
  if done then
    match strayMarker? reduced with
    | some marker => notice (.unbalancedMarker marker)
    | none => pure ()
  else notice (.iterationLimit limit)
  return reduced

end RecordTemplate.Render
