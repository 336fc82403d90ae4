/-
  RecordTemplate.Text.Html

  Text for HTML: escaping characters that have a meaning there, and taking tags out.
-/

import RecordTemplate.Text.Search

namespace RecordTemplate.Text

/-- One character of a text between tags. -/
def escapeChar (c : Char) : List Char :=
  if c = '&' then ['&', 'a', 'm', 'p', ';']
  else if c = '<' then ['&', 'l', 't', ';']
  else if c = '>' then ['&', 'g', 't', ';']
  else [c]

/-- One character of the value of an attribute. -/
def escapeAttributeChar (c : Char) : List Char :=
  if c = '"' then ['&', 'q', 'u', 'o', 't', ';']
  else if c = '\'' then ['&', '#', 'x', '2', '7', ';']
  else escapeChar c

def escape (s : List Char) : List Char := s.flatMap escapeChar

def escapeAttribute (s : List Char) : List Char := s.flatMap escapeAttributeChar

/-- A text without its tags.  A tag goes from a `<` to the first `>` behind it. -/
def stripTags : List Char → List Char
  | [] => []
  | c :: cs =>
    if c = '<' then
      match _h : cut? ['>'] cs with
      | some (_, rest) => stripTags rest
      | none => c :: cs
    else c :: stripTags cs
termination_by s => s.length
decreasing_by
  · have hs := eq_of_cut? (by assumption)
    simp only [hs, List.length_append, List.length_cons, List.length_nil]
    omega
  · exact Nat.lt_succ_self _

end RecordTemplate.Text
