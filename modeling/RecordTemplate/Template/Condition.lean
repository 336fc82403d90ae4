/-
  RecordTemplate.Template.Condition

  Conditions: a tag, an operator and a literal, with white space between them.  Order is
  decided on the numbers at the beginning of both sides, equality and containment on the
  texts.
-/

import RecordTemplate.Number.Reader
import RecordTemplate.Template.Tag

namespace RecordTemplate.Template

open RecordTemplate.Text RecordTemplate.Number

/-! ## Operators -/

/-- The operators that compare a rendered tag with a literal. -/
inductive Comparison where
  | equal
  | notEqual
  | greater
  | atLeast
  | less
  | atMost
  | contains
  | lacks
  deriving DecidableEq, Repr

namespace Comparison

def symbol : Comparison → List Char
  | equal => ['=', '=']
  | notEqual => ['!', '=']
  | greater => ['>']
  | atLeast => ['>', '=']
  | less => ['<']
  | atMost => ['<', '=']
  | contains => ['c', 'o', 'n', 't', 'a', 'i', 'n', 's']
  | lacks => ['n', 'o', 't', '_', 'c', 'o', 'n', 't', 'a', 'i', 'n', 's']

def all : List Comparison :=
  [equal, notEqual, greater, atLeast, less, atMost, contains, lacks]

/-- Whether a comparison holds between two texts. -/
def holds (op : Comparison) (left right : List Char) : Bool :=
  match op with
  | equal => left == right
  | notEqual => left != right
  | greater => (leadingNumber right).lt (leadingNumber left)
  | atLeast => (leadingNumber right).le (leadingNumber left)
  | less => (leadingNumber left).lt (leadingNumber right)
  | atMost => (leadingNumber left).le (leadingNumber right)
  | contains => occursIn right left
  | lacks => !occursIn right left

end Comparison

/-! ## Reading -/

/-- A condition of a marker. -/
structure Condition where
  tagText : List Char
  operator : Comparison
  literal : List Char
  deriving DecidableEq, Repr

namespace Condition

/-- Any text between percent signs, quotes closed, that does not start with white space. -/
def span? (s : List Char) : Option (List Char × List Char) :=
  match s with
  | c :: d :: t =>
    if c = '%' ∧ d ≠ '%' ∧ !isSpace d then
      (toPercent? none (d :: t)).map fun r => ('%' :: r.1 ++ ['%'], r.2)
    else none
  | _ => none

/-- What follows white space, of which there must be some. -/
def afterSpace? (s : List Char) : Option (List Char) :=
  match s with
  | c :: _ => if isSpace c then some (s.dropWhile isSpace) else none
  | [] => none

/-- An operator with white space behind it. -/
def operator? (s : List Char) : Option (Comparison × List Char) :=
  Comparison.all.findSome? fun op =>
    ((after? op.symbol s).bind afterSpace?).map fun rest => (op, rest)

/-- The literal that the rest of a condition consists of.  A single quote may open it and a
    single quote may close it; unless closed, it ends before the white space at the end. -/
def literal? (s : List Char) : Option (List Char) :=
  let s := (after? ['\''] s).getD s
  -- behind a closing quote only white space may follow
  match cut? ['\''] s with
  | none => some (trimRightBy isSpace s)
  | some (literal, rest) => if rest.all isSpace then some literal else none

/-- The condition that a text consists of. -/
def parse? (s : List Char) : Option Condition := do
  let (tag, s) ← span? (s.dropWhile isSpace)
  let (op, s) ← operator? (← afterSpace? s)
  return ⟨tag, op, ← literal? s⟩

end Condition
end RecordTemplate.Template
