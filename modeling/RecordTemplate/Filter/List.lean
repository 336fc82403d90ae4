/-
  RecordTemplate.Filter.List

  Filters on lists of texts.  A text counts as the items between its commas; a result that
  is a list again is written with a comma and a space between the items.
-/

import RecordTemplate.Filter.Basic
import RecordTemplate.Text.Case
import RecordTemplate.Text.Html

namespace RecordTemplate.Filter

open RecordTemplate.Text

/-- A filter that puts the items it computes together with commas. -/
def onItems (f : List String → List String → Except Failure (List String)) : FilterFunction :=
  fun _ v args => (f args v.toItems).map fun items => .text (listSeparator.intercalate items)

def limited : Filter where
  name := "limit"
  args := ["count"]
  description := "Keep the first N items"
  apply := onItems fun args items => do
    let count ← intArgument args 0 items.length
    return items.take count.toNat

def joined : Filter where
  name := "join"
  aliases := ["separator"]
  args := ["separator"]
  description := "Join items with a separator"
  apply := fun _ v args => .ok (.text ((textArgument args 0 listSeparator).intercalate v.toItems))

/-- The words that ask for descending order. -/
def descendingWords : List String := ["desc", "reverse"]

/-- Items in the order of their characters, or against it. -/
def sortItems (descending : Bool) (items : List String) : List String :=
  items.mergeSort fun a b => if descending then decide (b ≤ a) else decide (a ≤ b)

def sorted : Filter where
  name := "sort"
  args := ["direction"]
  description := "Sort items (asc or desc)"
  apply := onItems fun args items =>
    .ok (sortItems (descendingWords.contains (wordOf (textArgument args 0 "asc"))) items)

def trimmedText (s : String) : String := String.ofList (trim s.toList)

def excluded : Filter where
  name := "exclude"
  args := ["values"]
  description := "Remove the given items"
  apply := onItems fun args items =>
    .ok (items.filter fun item => !(args.map trimmedText).contains (trimmedText item))

def wrapped : Filter where
  name := "wrap"
  args := ["prefix", "suffix", "separator"]
  description := "Wrap each item"
  apply := fun _ v args =>
    let start := textArgument args 0 ""
    let finish := textArgument args 1 ""
    .ok (.text ((textArgument args 2 listSeparator).intercalate
      (v.toItems.map fun item => start ++ item ++ finish)))

def first : Filter where
  name := "first"
  description := "First item"
  apply := fun _ v _ => .ok (.text (v.toItems.head?.getD ""))

def last : Filter where
  name := "last"
  description := "Last item"
  apply := fun _ v _ => .ok (.text (v.toItems.getLast?.getD ""))

def count : Filter where
  name := "count"
  aliases := ["length"]
  description := "Number of items"
  apply := fun _ v _ => .ok (.int v.toItems.length)

/-- A term as a link. -/
def termLink (t : Term) : String :=
  "<a href=\"" ++ String.ofList (escapeAttribute t.link.toList) ++ "\">" ++
    String.ofList (escape t.name.toList) ++ "</a>"

/-- The terms behind the current field as links; without terms the value stays. -/
def termLinks : Filter where
  name := "term_links"
  args := ["separator"]
  description := "Taxonomy terms as links"
  apply := fun context v args => do
    let terms := context.currentTerms
    if terms.isPresent then
      let items ← terms.elements
      return .text ((textArgument args 0 listSeparator).intercalate
        ((items.filterMap Value.term?).map termLink))
    else return v

def listFilters : List Filter :=
  [limited, joined, sorted, excluded, wrapped, first, last, count, termLinks]

end RecordTemplate.Filter
