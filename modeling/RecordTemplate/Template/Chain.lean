/-
  RecordTemplate.Template.Chain

  Filter chains: filters separated by bars, each a name with optional arguments in
  parentheses.  A separator inside quotes or parentheses does not separate.
-/

import RecordTemplate.Text.Search

namespace RecordTemplate.Template

open RecordTemplate.Text

/-! ## Splitting -/

def isQuote (c : Char) : Bool := c == '"' || c == '\''

/-- How far a text has gone into quotes and parentheses. -/
structure Nesting where
  quote : Option Char := none
  depth : Nat := 0
  deriving DecidableEq, Repr

namespace Nesting

/-- The nesting after one more character.  A closing parenthesis without an opening one does
    not count. -/
def step (n : Nesting) (c : Char) : Nesting :=
  match n.quote with
  | some q => if c = q then { n with quote := none } else n
  | none =>
    if isQuote c then { n with quote := some c }
    else if c = '(' then { n with depth := n.depth + 1 }
    else if c = ')' then { n with depth := n.depth - 1 }
    else n

/-- Whether a character in this place separates two parts. -/
def separates (n : Nesting) (separator : List Char) (c : Char) : Bool :=
  n.quote.isNone && n.depth == 0 && !isQuote c && c != '(' && separator == [c]

end Nesting

/-- The parts of the rest of a text, the first of which goes on from the nesting `n`. -/
def splitFrom (separator : List Char) (n : Nesting) : List Char → List (List Char)
  | [] => [[]]
  | c :: cs =>
    if n.separates separator c then [] :: splitFrom separator n cs
    else
      match splitFrom separator (n.step c) cs with
      -- the character belongs to the part that goes on
      | part :: parts => (c :: part) :: parts
      | [] => [[c]]

/-- The parts of a text between separators that stand outside quotes and parentheses.  A
    separator that is not a single character never separates. -/
def splitTopLevel (separator text : List Char) : List (List Char) := splitFrom separator {} text

/-- A text without surrounding white space and without one pair of quotes around it. -/
def unquote (argument : List Char) : List Char :=
  let s := trim argument
  match s with
  | q :: rest =>
    if isQuote q ∧ rest.getLast? = some q then rest.dropLast else s
  | [] => []

/-! ## Filters -/

/-- A filter of a tag with its arguments. -/
structure Invocation where
  name : String
  args : List String
  deriving DecidableEq, Repr

/-- The arguments between parentheses; blank parentheses hold none. -/
def argumentsOf (s : List Char) : List String :=
  if trim s = [] then [] else (splitTopLevel [','] s).map fun a => String.ofList (unquote a)

/-- The filter written in one part of a chain: a name, or a name and parentheses. -/
def Invocation.ofPart? (part : List Char) : Option Invocation :=
  let s := trim part
  let name := s.takeWhile isNameChar
  if name = [] then none
  else match s.dropWhile isNameChar with
    | [] => some ⟨String.ofList name, []⟩
    | c :: rest =>
      if c = '(' ∧ rest.getLast? = some ')' then
        some ⟨String.ofList name, argumentsOf rest.dropLast⟩
      else none

/-- The parts of a filter chain; a blank chain has none. -/
def chainParts (chain : List Char) : List (List Char) :=
  if trim chain = [] then [] else splitTopLevel ['|'] chain

/-- The filters of a chain; parts that are no filter are skipped. -/
def chainFilters (chain : List Char) : List Invocation :=
  (chainParts chain).filterMap Invocation.ofPart?

/-- The parts of a chain that are no filter. -/
def invalidParts (chain : List Char) : List (List Char) :=
  ((chainParts chain).filter fun p => (Invocation.ofPart? p).isNone).map trim

end RecordTemplate.Template
