/-
  RecordTemplate.Template.Lint

  Checking a template without rendering it: conditional markers must be balanced and their
  conditions well formed, and the parts of filter chains should be filters.
-/

import RecordTemplate.Template.Condition
import RecordTemplate.Template.Token

namespace RecordTemplate.Template

open RecordTemplate.Text RecordTemplate.Number

/-- What a check of a template found. -/
structure Report where
  errors : List String
  warnings : List String
  deriving DecidableEq, Repr

/-- A template is valid if there are no errors. -/
def Report.isValid (r : Report) : Bool := r.errors.isEmpty

/-! ## Markers -/

/-- A fault of the conditional markers of a template. -/
inductive MarkerFault where
  | unexpectedClose (position : Nat)
  | outsideBlock (marker : List Char) (position : Nat)
  | malformed (condition : List Char) (position : Nat)
  | unclosed (count : Nat)
  deriving DecidableEq, Repr

def MarkerFault.message : MarkerFault → String
  | unexpectedClose p => "Unexpected [/if] at position " ++ String.ofList (digits p)
  | outsideBlock m p =>
    "Unexpected " ++ String.ofList m ++ " outside of [if] block at position " ++
      String.ofList (digits p)
  | malformed c p =>
    "Malformed condition '" ++ String.ofList c ++ "' at position " ++ String.ofList (digits p)
  | unclosed n => String.ofList (digits n) ++ " unclosed [if] block(s)"

/-- The fault of a condition that cannot be read. -/
def conditionFault (t : Token) : List MarkerFault :=
  match t.argument? with
  | some c => if (Condition.parse? c).isNone then [.malformed c t.position] else []
  | none => []

/-- The faults of markers met with `depth` blocks open. -/
def markerFaultsFrom : Nat → List Token → List MarkerFault
  | depth, [] => if depth = 0 then [] else [.unclosed depth]
  | depth, t :: rest =>
    match t.kind with
    | .marker (.ifOpen _) => conditionFault t ++ markerFaultsFrom (depth + 1) rest
    | .marker .close =>
      match depth with
      -- with nothing open the marker closes nothing
      | 0 => .unexpectedClose t.position :: markerFaultsFrom 0 rest
      | d + 1 => markerFaultsFrom d rest
    | _ =>
      (if depth = 0 then [.outsideBlock t.value t.position] else []) ++ conditionFault t ++
        markerFaultsFrom depth rest

def markerFaults (text : List Char) : List MarkerFault := markerFaultsFrom 0 (markerTokens text)

/-! ## Filter chains -/

/-- The warnings for the parts of one tag's chain that are no filter. -/
def chainWarnings (t : Found TagForm) : List String :=
  (invalidParts t.item.chain).map fun part =>
    "Invalid filter '" ++ String.ofList part ++ "' in " ++ String.ofList t.text

/-- The check of a template. -/
def Report.ofTemplate (ks : Keywords) (text : List Char) : Report where
  errors := (markerFaults text).map MarkerFault.message
  warnings := ((tagRule ks).scan text).found.flatMap chainWarnings

end RecordTemplate.Template
