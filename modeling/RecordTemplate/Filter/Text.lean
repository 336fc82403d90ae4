/-
  RecordTemplate.Filter.Text

  Filters on texts.  A value that is no text counts as the text it renders as.
-/

import RecordTemplate.Filter.Basic
import RecordTemplate.Text.Case
import RecordTemplate.Text.Html

namespace RecordTemplate.Filter

open RecordTemplate.Text

/-! ## Case -/

def uppercase : Filter where
  name := "uppercase"
  aliases := ["upper"]
  description := "Convert text to uppercase"
  apply := onText fun _ s => upper s

def lowercase : Filter where
  name := "lowercase"
  aliases := ["lower"]
  description := "Convert text to lowercase"
  apply := onText fun _ s => lower s

def capitalized : Filter where
  name := "capitalize"
  aliases := ["ucfirst"]
  description := "Uppercase the first letter"
  apply := onText fun _ s => capitalize s

def titled : Filter where
  name := "title"
  aliases := ["ucwords"]
  description := "Capitalize each word"
  apply := onText fun _ s => title s

/-! ## Parts of a text -/

/-- A text trimmed of the characters in the first argument, of white space without one. -/
def trimArguments (args : List String) (s : List Char) : List Char :=
  match textArgument args 0 "" with
  | "" => trim s
  | characters => trimBy (fun c => characters.toList.contains c) s

def trimmed : Filter where
  name := "trim"
  args := ["characters"]
  description := "Strip surrounding whitespace"
  apply := onText trimArguments

def withoutTags : Filter where
  name := "strip_tags"
  description := "Remove HTML tags"
  apply := onText fun _ s => stripTags s

/-- A text of at most `length` characters as it is, a longer one cut and followed by
    `suffix`. -/
def cutTo (length : Nat) (suffix s : List Char) : List Char :=
  if s.length ≤ length then s else s.take length ++ suffix

def truncated : Filter where
  name := "truncate"
  args := ["length", "suffix"]
  description := "Shorten text to N characters"
  apply := fun _ v args => do
    let length ← intArgument args 0 100
    let suffix := textArgument args 1 "..."
    return .text (String.ofList (cutTo length.toNat suffix.toList (stripTags v.render.toList)))

/-! ## Other texts -/

def replaced : Filter where
  name := "replace"
  args := ["search", "replacement"]
  description := "Replace text"
  apply := onText fun args s =>
    match textArgument args 0 "" with
    | "" => s
    | search => replaceAll search.toList (textArgument args 1 "").toList s

/-- A value that renders as nothing is replaced; zero renders as a digit and stays. -/
def defaulted : Filter where
  name := "default"
  args := ["value"]
  description := "Use a default when empty"
  apply := fun _ v args => .ok (if v.render = "" then .text (textArgument args 0 "") else v)

def appended : Filter where
  name := "append"
  aliases := ["suffix"]
  args := ["text"]
  description := "Append text when not empty"
  apply := onText fun args s => if s = [] then s else s ++ args.flatMap String.toList

def prepended : Filter where
  name := "prepend"
  aliases := ["prefix"]
  args := ["text"]
  description := "Prepend text when not empty"
  apply := onText fun args s => if s = [] then s else args.flatMap String.toList ++ s

/-- The words that mean yes, in several languages. -/
def trueWords : List String :=
  ["true", "1", "yes", "on", "y", "tak", "sim", "oui", "ja", "si", "sí"]

def boolean : Filter where
  name := "boolean"
  aliases := ["to_bool", "bool"]
  description := "Parse yes/no text into a boolean"
  apply := fun _ v _ => .ok <|
    match v with
    | .bool b => .bool b
    | v => .bool (trueWords.contains (wordOf v.render))

def textFilters : List Filter :=
  [uppercase, lowercase, capitalized, titled, trimmed, withoutTags, truncated, replaced,
    defaulted, appended, prepended, boolean]

end RecordTemplate.Filter
