/-
  RecordTemplate.Template.Block

  Conditional blocks: an `[if:]` marker, its branches and the `[/if]` that closes it.  The
  closing marker is found by counting, so that blocks inside a branch belong to the body of
  that branch.
-/

import RecordTemplate.Template.Marker

namespace RecordTemplate.Template

/-- One branch of a block with the place of its marker; an `[else]` branch has no condition. -/
structure Branch where
  condition : Option (List Char)
  body : List Char
  position : Nat
  deriving DecidableEq, Repr

def Branch.isElse (b : Branch) : Bool := b.condition.isNone

/-- A block, the text before it and the text after it. -/
structure Block where
  before : List Char
  branches : List Branch
  stop : Nat
  after : List Char
  deriving DecidableEq, Repr

namespace Block

/-- The place where a block begins. -/
def position (b : Block) : Nat := b.before.length

/-- What is left of an open block: the rest of the body that is being read, the branches after
    it, the place after the closing marker and the markers that follow it. -/
structure Closing where
  body : List Char
  branches : List Branch
  stop : Nat
  later : List (Found Marker)

/-- The same, with a text in front of the body. -/
def Closing.after (text : List Char) (c : Closing) : Closing := { c with body := text ++ c.body }

/-- What is left of a block among the markers that follow.  `depth` counts the blocks open
    inside the branch, `start` is the place that has been reached. -/
def closing? (depth start : Nat) : List (Found Marker) → Option Closing
  | [] => none
  | m :: rest =>
    let place := start + m.lead.length
    let stop := place + m.text.length
    match m.item, depth with
    | .ifOpen _, d => (closing? (d + 1) stop rest).map (·.after (m.lead ++ m.text))
    | .close, 0 => some ⟨m.lead, [], stop, rest⟩
    | .close, d + 1 => (closing? d stop rest).map (·.after (m.lead ++ m.text))
    -- a separator at the top ends the branch and opens the next one
    | separator, 0 =>
      (closing? 0 stop rest).map fun c =>
        { c with body := m.lead, branches := ⟨separator.condition?, c.body, place⟩ :: c.branches }
    | _, d + 1 => (closing? (d + 1) stop rest).map (·.after (m.lead ++ m.text))

/-- The first block among markers that follow the text `before`. -/
def first? (tail before : List Char) : List (Found Marker) → Option Block
  | [] => none
  | m :: rest =>
    let here := before ++ m.lead
    let block : Option Block := match m.item with
      | .ifOpen condition =>
        (closing? 0 (here.length + m.text.length) rest).map fun c =>
          ⟨here, ⟨some condition, c.body, here.length⟩ :: c.branches, c.stop,
            (Scan.mk c.later tail).text⟩
      | _ => none
    match block with
    | some b => some b
    -- an opening marker that is never closed is skipped as text
    | none => first? tail (here ++ m.text) rest

/-- The first block of a text: the first `[if:]` that is closed. -/
def find? (text : List Char) : Option Block :=
  let s := markerRule.scan text
  first? s.tail [] s.found

end Block
end RecordTemplate.Template
