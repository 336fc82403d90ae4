/-
  RecordTemplate.Text.Charset.Run

  Tables of characters in rows and cells.  A table lists runs of neighbouring cells; U+FFFE
  stands for a cell without a character.
-/

namespace RecordTemplate.Text.Charset

/-- Neighbouring cells of a row. -/
structure Run where
  row : Nat
  /-- The cell of the first character. -/
  first : Nat
  chars : String

/-- The character in a cell of a table. -/
def charAt? (table : List Run) (row cell : Nat) : Option Char :=
  table.findSome? fun run =>
    if run.row = row ∧ run.first ≤ cell then
      (run.chars.toList[cell - run.first]?).filter (· ≠ '\uFFFE')
    else none

/-- The characters in a cell of a table in which every run is a cell of its own. -/
def textAt? (table : List Run) (row cell : Nat) : Option (List Char) :=
  (table.find? fun run => run.row = row ∧ run.first = cell).map (·.chars.toList)

/-- The characters of a table. -/
def charsOf (table : List Run) : List Char :=
  table.flatMap fun run => run.chars.toList.filter (· ≠ '\uFFFE')

/-- The code points from `first` to `last`, in order, without those of `used`. -/
def codesWithout (used : List Char) (first last : Nat) : Array Nat :=
  let marks := used.foldl (fun marks c => marks.setIfInBounds c.toNat true)
    (Array.replicate (last + 1) false)
  ((Array.range (last + 1 - first)).map (first + ·)).filter fun n => marks[n]? == some false

end RecordTemplate.Text.Charset
