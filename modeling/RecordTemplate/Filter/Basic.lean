/-
  RecordTemplate.Filter.Basic

  Filters: functions from a value and the arguments of a tag to a value, with what they may
  know about the tag they are applied for.
-/

import RecordTemplate.Number.Integer
import RecordTemplate.Value.Reading

namespace RecordTemplate

open RecordTemplate.Calendar RecordTemplate.Number RecordTemplate.Text

/-! ## Context -/

/-- What a filter may know: the locale, the terms behind the fields of the record with the
    field of the current tag, and the current moment. -/
structure FilterContext where
  locale : String := "en_US"
  terms : Entries := []
  termsKey : Option String := none
  now : DateTime

/-- The value under the current tag's field among the terms, null if there is none. -/
def FilterContext.currentTerms (context : FilterContext) : Value :=
  match context.termsKey with
  | some key => Entries.value context.terms key
  | none => .null

/-! ## Filters -/

/-- What a filter computes. -/
abbrev FilterFunction := FilterContext → Value → List String → Except Failure Value

/-- A filter with the names it is known by and what the editor shows about it. -/
structure Filter where
  name : String
  aliases : List String := []
  args : List String := []
  description : String := ""
  apply : FilterFunction

namespace Filter

/-- A filter as messages show it. -/
def shown (f : Filter) : String := "<Filter: " ++ f.name ++ ">"

/-- A filter that cannot fail and computes a text from the text of the value. -/
def onText (f : List String → List Char → List Char) : FilterFunction :=
  fun _ v args => .ok (.text (String.ofList (f args v.render.toList)))

end Filter

/-! ## Arguments -/

/-- The argument at an index; a negative index counts from the end. -/
def argumentAt? {α : Type} (args : List α) (index : Int) : Option α :=
  if 0 ≤ index then args[index.toNat]?
  else if index + args.length < 0 then none
  else args[(index + args.length).toNat]?

/-- The integer that an argument stands for, nothing if the argument is absent or no number.
    An infinite one is an error. -/
def intArgument? (args : List String) (index : Int) : Except Failure (Option Int) :=
  match (argumentAt? args index).bind fun s => readFloat? (trim s.toList) with
  | none | some .nan => .ok none
  | some x => x.toInteger.map some

/-- The integer that an argument stands for, and the fallback if it stands for none. -/
def intArgument (args : List String) (index fallback : Int) : Except Failure Int :=
  (intArgument? args index).map (·.getD fallback)

/-- The text of an argument, nothing if it is absent or null.  Only counting from the end one
    can miss the arguments. -/
def optionalArgument (args : List (Option String)) (index : Int) :
    Except Failure (Option String) :=
  match argumentAt? args index with
  | some s => .ok s
  | none => if 0 ≤ index then .ok none else .error .noArgument

/-- The text of an argument, the fallback if it is absent. -/
def textArgument (args : List String) (index : Nat) (fallback : String) : String :=
  args[index]?.getD fallback

/-- The text of an argument, the fallback if it is absent or empty. -/
def filledArgument (args : List String) (index : Nat) (fallback : String) : String :=
  let s := textArgument args index ""
  if s = "" then fallback else s

/-- A word in an argument without regard to case and surrounding white space. -/
def wordOf (s : String) : String := String.ofList (lower (trim s.toList))

end RecordTemplate
