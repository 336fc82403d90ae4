/-
  RecordTemplate.Text.Charset.Reading

  Reading of bytes piece by piece: a rule tells what the first bytes stand for, and it is
  applied again behind them.  Where some bytes change the meaning of those behind them, the
  rule depends on a mode.
-/

import RecordTemplate.Text.Charset.Run

namespace RecordTemplate.Text.Charset

/-- What the first bytes stand for: their text, and how many follow the first of them. -/
abbrev Piece := List Char × Nat

/-- A rule for the first byte and those behind it; nothing if they stand for no text. -/
abbrev Rule := Nat → List Nat → Option Piece

/-- The text of bytes under a rule that tells also the mode behind a piece. -/
def readModes {Mode : Type} (rule : Mode → Nat → List Nat → Option (Piece × Mode)) (mode : Mode) :
    List Nat → Option (List Char)
  | [] => some []
  | b :: s =>
    match rule mode b s with
    | none => none
    | some ((text, more), next) => (readModes rule next (s.drop more)).map (text ++ ·)
termination_by s => s.length
decreasing_by simp only [List.length_drop, List.length_cons]; omega

/-- The text of bytes under a rule. -/
def readBytes (rule : Rule) (bytes : List UInt8) : Option (List Char) :=
  readModes (fun () a s => (rule a s).map (·, ())) () (bytes.map UInt8.toNat)

/-! ## Pieces -/

/-- A piece of two bytes. -/
def double? (c : Option Char) : Option Piece := c.map fun c => ([c], 1)

/-- ASCII in single bytes, and another rule for the other bytes. -/
def asciiOr (rule : Rule) : Rule := fun a s =>
  if a < 0x80 then some ([Char.ofNat a], 0) else rule a s

/-- Characters of two bytes each. -/
def pairs (char? : Nat → Nat → Option Char) : Rule := fun a s =>
  match s with
  | b :: _ => double? (char? a b)
  | [] => none

/-- The character of two bytes that are the row and the cell of a table, from 0xA1 on. -/
def extendedCharAt? (table : List Run) (a b : Nat) : Option Char :=
  if 0xA1 ≤ a ∧ 0xA1 ≤ b then charAt? table (a - 0xA0) (b - 0xA0) else none

end RecordTemplate.Text.Charset
