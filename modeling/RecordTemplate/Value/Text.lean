/-
  RecordTemplate.Value.Text

  The text of a value as templates show it, and values as lists of texts.  A list shows its
  items with a comma and a space between them; empty items are left out.
-/

import RecordTemplate.Value.Literal

namespace RecordTemplate

open RecordTemplate.Number RecordTemplate.Text

/-- What stands between the items of a list. -/
def listSeparator : String := ", "

namespace Value

/-- The text of a scalar: true is `1`, false and null are empty, and a whole number has no
    decimal point. -/
def scalarText (v : Value) : String :=
  match v with
  | null => ""
  | bool b => if b then "1" else ""
  | float (.finite s m e) =>
    if Binary64.isWhole m e then intString (Binary64.truncate s m e)
    else String.ofList (Binary64.text (.finite s m e))
  | v => v.display

/-- The items of a list that are not empty, with a separator between them. -/
def joinItems (separator : String) (items : List Value) : String :=
  separator.intercalate ((items.filter fun v => !v.isEmptyItem).map scalarText)

/-- The text that a value renders as; structured values render as nothing. -/
def render (v : Value) : String :=
  match v.kind with
  | .scalar => v.scalarText
  | .listOfScalar => joinItems listSeparator (v.sequence?.getD [])
  | .null | .structured | .composite => ""

/-- The items of a text, which are separated by a comma and a space. -/
def splitItems (s : String) : List String :=
  ((splitOn listSeparator.toList s.toList).filter fun item => trim item ≠ []).map String.ofList

/-- A value as a list of texts that are not empty. -/
def toItems (v : Value) : List String :=
  match v with
  | list vs | tuple vs =>
    ((vs.filter fun v => !v.isEmptyItem).map render).filter (· ≠ "")
  | v => if v.render = "" then [] else splitItems v.render

end Value
end RecordTemplate
