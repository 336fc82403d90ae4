/-
  RecordTemplate.Template.Fallback

  Fallbacks: a tag followed directly by `[fallback]`, a body and `[/fallback]`.  In a longer
  text the body ends at the first closing mark; a text that is one fallback as a whole ends
  with its closing mark, and its body may hold others.
-/

import RecordTemplate.Template.Tag

namespace RecordTemplate.Template

open RecordTemplate.Text

/-- A tag and the body that stands in for it when it renders as nothing. -/
structure FallbackForm where
  tagText : List Char
  body : List Char
  deriving DecidableEq, Repr

namespace FallbackForm

def openMark : List Char := ['[', 'f', 'a', 'l', 'l', 'b', 'a', 'c', 'k', ']']
def closeMark : List Char := ['[', '/', 'f', 'a', 'l', 'l', 'b', 'a', 'c', 'k', ']']

/-- The fallback that goes on after a tag. -/
def ofTag? (tag : Reading TagForm) : Option (Reading FallbackForm) :=
  match after? openMark tag.rest with
  | none => none
  | some t => (cut? closeMark t).map fun r =>
    ⟨⟨tag.text, r.1⟩, tag.text ++ openMark ++ r.1 ++ closeMark, r.2⟩

/-- The fallback at the beginning of a text. -/
def run (ks : Keywords) (s : List Char) : Option (Reading FallbackForm) :=
  (tagForms ks s).findSome? ofTag?

theorem splits {ks : Keywords} {s : List Char} {r : Reading FallbackForm}
    (h : run ks s = some r) : r.Splits s := by
  obtain ⟨tag, ht, hf⟩ := List.exists_of_findSome?_eq_some h
  obtain ⟨hne, hs⟩ := splits_of_mem_tagForms ht
  unfold ofTag? at hf
  split at hf
  · cases hf
  · next t hv =>
    obtain ⟨⟨b, rest⟩, hb, rfl⟩ := Option.map_eq_some_iff.1 hf
    refine ⟨by simp [hne], ?_⟩
    rw [hs, after?_eq_some_iff.1 hv, eq_of_cut? hb]
    simp only [List.append_assoc]

/-- The text before `mark` at the end of a text. -/
def beforeEnd? (mark s : List Char) : Option (List Char) :=
  (after? mark.reverse s.reverse).map List.reverse

/-- The fallback that is all that follows a tag. -/
def wholeOfTag? (tag : Reading TagForm) : Option FallbackForm :=
  match after? openMark tag.rest with
  | none => none
  | some t => (beforeEnd? closeMark t).map fun body => ⟨tag.text, body⟩

/-- The fallback that a text consists of. -/
def parse? (ks : Keywords) (s : List Char) : Option FallbackForm :=
  (tagForms ks s).findSome? wholeOfTag?

end FallbackForm

/-- The rule that finds fallbacks. -/
def fallbackRule (ks : Keywords) : Recogniser FallbackForm :=
  ⟨FallbackForm.run ks, FallbackForm.splits⟩

/-- A fallback at a place of a larger text. -/
structure FallbackBlock where
  position : Int
  stop : Int
  tagText : List Char
  body : List Char
  deriving DecidableEq, Repr

/-- The fallback that a text at a place of a larger text consists of. -/
def FallbackBlock.parse? (ks : Keywords) (text : List Char) (position : Int) :
    Option FallbackBlock :=
  (FallbackForm.parse? ks text).map fun f =>
    ⟨position, position + text.length, f.tagText, f.body⟩

end RecordTemplate.Template
