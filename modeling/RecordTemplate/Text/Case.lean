/-
  RecordTemplate.Text.Case

  Upper, lower and title case.  A character may expand to several, and a capital sigma is
  written as the final form at the end of a word.
-/

import RecordTemplate.Text.CharClass
import RecordTemplate.Text.CaseTable

namespace RecordTemplate.Text

/-! ## Single characters -/

/-- The code point `n` under the first run that holds it. -/
def mapRuns? (runs : List CaseRun) (n : Nat) : Option Nat :=
  (runs.find? fun r => r.first ≤ n && n ≤ r.last && (n - r.first) % r.step == 0).map fun r =>
    ((n : Int) + r.delta).toNat

/-- A character under an expansion table, else under a run table. -/
def mapChar? (expansions : List (Nat × List Nat)) (runs : List CaseRun) (c : Char) :
    Option (List Char) :=
  match expansions.find? fun e => e.1 == c.toNat with
  | some e => some (e.2.map Char.ofNat)
  | none => (mapRuns? runs c.toNat).map fun n => [Char.ofNat n]

def upperChar (c : Char) : List Char :=
  if isAscii c then [c.toUpper] else (mapChar? upperExpansions upperRuns c).getD [c]

def lowerChar (c : Char) : List Char :=
  if isAscii c then [c.toLower] else (mapChar? lowerExpansions lowerRuns c).getD [c]

def titleChar (c : Char) : List Char :=
  if isAscii c then [c.toUpper] else (mapChar? titleExpansions titleRuns c).getD (upperChar c)

/-- Characters that have case. -/
def isCased (c : Char) : Bool :=
  if isAscii c then isLetter c else inTable casedTable c.toNat

/-- Characters that do not count as neighbours of a sigma. -/
def isCaseIgnorable (c : Char) : Bool := inTable caseIgnorableTable c.toNat

/-- Whether a capital sigma stands at the end of a word: before it comes a cased character,
    after it none.  `before` lists what precedes the sigma, nearest first. -/
def sigmaIsFinal (before after : List Char) : Bool :=
  (match before.dropWhile isCaseIgnorable with
    | c :: _ => isCased c
    | [] => false) &&
  (match after.dropWhile isCaseIgnorable with
    | c :: _ => !isCased c
    | [] => true)

/-- The lower case form of a character between its neighbours. -/
def lowerIn (before : List Char) (c : Char) (after : List Char) : List Char :=
  if c == 'Σ' then [if sigmaIsFinal before after then 'ς' else 'σ'] else lowerChar c

/-! ## Texts -/

def upper (s : List Char) : List Char := s.flatMap upperChar

/-- Lower case of the rest of a text whose beginning, reversed, is `before`. -/
def lowerFrom (before : List Char) : List Char → List Char
  | [] => []
  | c :: rest => lowerIn before c rest ++ lowerFrom (c :: before) rest

def lower (s : List Char) : List Char := lowerFrom [] s

/-- Title case of the rest of a text whose beginning, reversed, is `before`: a character
    after a cased one is lowered, any other takes its title form. -/
def titleFrom (before : List Char) : List Char → List Char
  | [] => []
  | c :: rest =>
    -- a word starts wherever no cased character precedes
    (if before.head?.any isCased then lowerIn before c rest else titleChar c) ++
      titleFrom (c :: before) rest

def title (s : List Char) : List Char := titleFrom [] s

/-- The first character in upper case, the others unchanged. -/
def capitalize (s : List Char) : List Char := upper (s.take 1) ++ s.drop 1

end RecordTemplate.Text
