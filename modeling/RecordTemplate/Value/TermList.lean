/-
  RecordTemplate.Value.TermList

  Lists of taxonomy terms as text: the names of the terms, or one attribute of each.
-/

import RecordTemplate.Value.Text

namespace RecordTemplate

open RecordTemplate.Text

namespace Term

/-! ## Attributes -/

/-- A method of a term as text. -/
def methodText (t : Term) (method : String) : String :=
  "<bound method Term." ++ method ++ " of " ++ t.literal ++ ">"

/-- The text of the reserved attributes, which all terms have besides their own. -/
def reservedText? (t : Term) (name : String) : Option String :=
  match name with
  | "__class__" => some "<class 'dataengine.values.Term'>"
  | "__module__" => some "dataengine.values"
  | "__doc__" => some ("\n    A taxonomy term attached to a record (category, tag, ...).\n\n" ++
      "    Renders as its name when no property is requested.\n    ")
  | "__dict__" => some (Value.mapping t.attributes).literal
  | "__annotations__" =>
    some ("\x7b" ++ commaSeparated (t.attributes.map fun e =>
      quotedString e.1 ++ ": <class '" ++ e.2.typeName ++ "'>") ++ "\x7d")
  | "__dataclass_params__" => some ("_DataclassParams(init=True,repr=True,eq=True," ++
      "order=False,unsafe_hash=False,frozen=False)")
  | "__match_args__" =>
    some (Value.tuple (t.attributes.map fun e => .text e.1)).literal
  | "__init__" | "__repr__" | "__eq__" => some (t.methodText name)
  | "__hash__" | "__weakref__" => some ""
  | _ => none

/-- The text of an attribute of a term. -/
def attributeText? (t : Term) (name : String) : Option String :=
  match t.attribute? name with
  | some v => some v.scalarText
  | none => t.reservedText? name

/-- The text of a term: its name, or the attribute that is asked for. -/
def text? (t : Term) (property : Option String) : Option String :=
  match property with
  | none => some t.name
  | some name => t.attributeText? name

end Term

/-- The texts of the terms of a list; items that are no term, and terms without the attribute,
    are left out. -/
def termListText (items : List Value) (property : Option String) : String :=
  listSeparator.intercalate ((items.filterMap Value.term?).filterMap (·.text? property))

end RecordTemplate
