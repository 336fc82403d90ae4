/-
  RecordTemplate.Value.Key

  Values as keys of records and attachments.  Numbers of any type are the same key if they
  are equal; lists, mappings, sets and terms cannot be keys, nor can what signals that it is
  not a number.
-/

import RecordTemplate.Value.Basic

namespace RecordTemplate

open RecordTemplate.Calendar RecordTemplate.Number

/-! ## Equal numbers -/

/-- A number as an exact quotient with a positive denominator, or an infinity. -/
inductive Magnitude where
  | ratio (num : Int) (den : Nat)
  | infinite (negative : Bool)

namespace Magnitude

def same : Magnitude → Magnitude → Bool
  | ratio a b, ratio c d => a * d == c * b
  | infinite s, infinite t => s == t
  | _, _ => false

/-- The exact value of a number; nothing for other values and for what is not a number. -/
def of? : Value → Option Magnitude
  | .bool b => some (ratio (if b then 1 else 0) 1)
  | .int n => some (ratio n 1)
  | .float (.finite s m e) =>
    let r := Binary64.ratio m e
    some (ratio (Binary64.signed s r.1) r.2)
  | .float (.infinite s) => some (infinite s)
  | .decimal (.finite s c e) =>
    some (ratio (Binary64.signed s (c * Nat.pow 10 e.toNat)) (Nat.pow 10 (-e).toNat))
  | .decimal (.infinite s) => some (infinite s)
  | _ => none

end Magnitude

namespace Value

/-! ## Keys -/

mutual

/-- What keeps a value from being a key. -/
def keyFault? : Value → Option Failure
  | list _ => some (.unhashable "list")
  | mapping _ => some (.unhashable "dict")
  | set _ => some (.unhashable "set")
  | term _ => some (.unhashable "Term")
  | decimal (.nan _ true _) => some .unhashableNan
  | tuple vs => firstKeyFault? vs
  | _ => none

def firstKeyFault? : List Value → Option Failure
  | [] => none
  | v :: vs => v.keyFault? <|> firstKeyFault? vs

end

mutual

/-- Whether two values are the same key. -/
def sameKey : Value → Value → Bool
  | tuple vs, tuple ws => sameKeys vs ws
  | null, null => true
  | text s, text t => s == t
  | date d, date e => d == e
  | dateTime t, dateTime u => t.zone.isSome == u.zone.isSome && t.instant == u.instant
  | bytes b, bytes c => b == c
  | v, w =>
    match Magnitude.of? v, Magnitude.of? w with
    | some a, some b => a.same b
    | _, _ => false

def sameKeys : List Value → List Value → Bool
  | [], [] => true
  | v :: vs, w :: ws => sameKey v w && sameKeys vs ws
  | _, _ => false

end

/-- Whether two values are in ascending order, if both are whole numbers. -/
def ascend : Value → Value → Bool
  | int a, int b => decide (a ≤ b)
  | _, _ => true

/-- The set of some values, none of which is in it twice; whole numbers are in ascending
    order. -/
def setOf (vs : List Value) : Value :=
  let elements := vs.foldl (fun kept v => if kept.any (·.sameKey v) then kept else kept ++ [v]) []
  .set (elements.mergeSort ascend)

/-- Fails if a value cannot be a key. -/
def checkKey (v : Value) : Except Failure Unit :=
  match v.keyFault? with
  | some e => .error e
  | none => .ok ()

end Value

/-- Items under keys, in the order in which the keys were added. -/
abbrev Keyed (α : Type) := List (Value × α)

namespace Keyed

variable {α : Type}

/-- The item under a key. -/
def get? (items : Keyed α) (key : Value) : Option α :=
  (items.find? fun e => e.1.sameKey key).map (·.2)

/-- Sets the item under a key; a key that is new goes to the end. -/
def set (items : Keyed α) (key : Value) (a : α) : Keyed α :=
  if items.any (·.1.sameKey key) then
    items.map fun e => if e.1.sameKey key then (e.1, a) else e
  else items ++ [(key, a)]

/-- The item under a key, which must be a value that can be one. -/
def find (items : Keyed α) (key : Value) : Except Failure (Option α) := do
  key.checkKey
  return items.get? key

end Keyed
end RecordTemplate
