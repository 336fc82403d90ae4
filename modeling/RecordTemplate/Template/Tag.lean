/-
  RecordTemplate.Template.Tag

  Tags: `%source:path|filter(argument)|filter%`.  The source is one of the keywords, the path
  a run of word characters, points and hyphens, and the filter chain any text in which quotes
  are closed and no percent sign stands outside them.
-/

import RecordTemplate.Template.Chain
import RecordTemplate.Template.Recogniser

namespace RecordTemplate.Template

open RecordTemplate.Text

/-! ## Keywords -/

/-- The words that name data sources, in the order in which a tag is tried with them. -/
structure Keywords where
  words : List (List Char)

namespace Keywords

/-- The names of the sources unless others are configured. -/
def standardNames : List String := ["custom", "native", "row"]

/-- Keywords, the longest first.  Without any keyword a tag has no source at all. -/
def ofList (names : List String) : Keywords :=
  if names.isEmpty then ⟨[[]]⟩
  else ⟨(names.map String.toList).mergeSort fun a b => b.length ≤ a.length⟩

/-- Keywords for reading single tags, for which no names mean the standard ones. -/
def ofListOrStandard (names : List String) : Keywords :=
  ofList (if names.isEmpty then standardNames else names)

end Keywords

/-! ## The form of a tag -/

/-- The parts of a tag as they are written; the chain is empty if there is none. -/
structure TagForm where
  source : List Char
  path : List Char
  chain : List Char
  deriving DecidableEq, Repr

def isPathChar (c : Char) : Bool := isWord c || c == '.' || c == '-'

/-- The text up to the first percent sign outside quotes, and what follows that sign.  The
    first argument is the quote that is open. -/
def toPercent? : Option Char → List Char → Option (List Char × List Char)
  | _, [] => none
  | none, c :: s =>
    if c = '%' then some ([], s)
    else (toPercent? (if isQuote c then some c else none) s).map fun r => (c :: r.1, r.2)
  | some q, c :: s =>
    (toPercent? (if c = q then none else some q) s).map fun r => (c :: r.1, r.2)

theorem eq_of_toPercent? {q : Option Char} {s body rest : List Char}
    (h : toPercent? q s = some (body, rest)) : s = body ++ '%' :: rest := by
  induction s generalizing q body with
  | nil => cases q <;> simp [toPercent?] at h
  | cons c s ih =>
    have step {q' : Option Char} {body : List Char}
        (h : (toPercent? q' s).map (fun r => (c :: r.1, r.2)) = some (body, rest)) :
        c :: s = body ++ '%' :: rest := by
      obtain ⟨⟨b, r⟩, hb, he⟩ := Option.map_eq_some_iff.1 h
      cases he
      simp [ih hb]
    cases q with
    | some q => exact step h
    | none =>
      simp only [toPercent?] at h
      split at h
      · next hc => cases h; simp [hc]
      · exact step h

/-- The filter chain after a bar, up to the percent sign that closes the tag.  White space
    after the bar is left out, except that a chain has at least one character. -/
def chain? (s : List Char) : Option (Reading (List Char)) :=
  let blank := s.takeWhile isSpace
  match toPercent? none (s.dropWhile isSpace) with
  | none => none
  | some (c :: body, rest) => some ⟨c :: body, blank ++ c :: body ++ ['%'], rest⟩
  -- nothing but white space: its last character is the chain
  | some ([], rest) => (blank.getLast?).map fun c => ⟨[c], blank ++ ['%'], rest⟩

/-- The chain that follows the path of a tag: none before the closing percent sign, or the one
    after a bar. -/
def afterPath? (s : List Char) : Option (Reading (List Char)) :=
  match s with
  | [] => none
  | c :: rest =>
    if c = '%' then some ⟨[], [c], rest⟩
    else
      let blank := s.takeWhile isSpace
      match s.dropWhile isSpace with
      | [] => none
      | d :: u =>
        if d = '|' then (chain? u).map fun r => { r with text := blank ++ d :: r.text } else none

/-- What follows the percent sign that opens a tag, read with one keyword. -/
def withKeyword? (keyword s : List Char) : Option (Reading TagForm) :=
  match after? (keyword ++ [':']) s with
  | none => none
  | some t =>
    let path := t.takeWhile isPathChar
    if path = [] then none
    else (afterPath? (t.dropWhile isPathChar)).map fun r =>
      ⟨⟨keyword, path, r.item⟩, '%' :: keyword ++ [':'] ++ path ++ r.text, r.rest⟩

/-- The tags at the beginning of a text, one at most for every keyword. -/
def tagForms (ks : Keywords) (s : List Char) : List (Reading TagForm) :=
  match s with
  | [] => []
  | c :: t => if c = '%' then ks.words.filterMap fun k => withKeyword? k t else []

/-- The tag at the beginning of a text. -/
def tagForm? (ks : Keywords) (s : List Char) : Option (Reading TagForm) :=
  (tagForms ks s).head?

/-! ## Nothing is lost -/

theorem eq_of_chain? {s : List Char} {r : Reading (List Char)} (h : chain? s = some r) :
    s = r.text ++ r.rest := by
  have hs := List.takeWhile_append_dropWhile (p := isSpace) (l := s)
  unfold chain? at h
  dsimp only at h
  split at h
  · cases h
  · next ht =>
    cases h
    rw [eq_of_toPercent? ht] at hs
    simpa using hs.symm
  · next ht =>
    obtain ⟨c, _, rfl⟩ := Option.map_eq_some_iff.1 h
    rw [eq_of_toPercent? ht] at hs
    simpa using hs.symm

theorem eq_of_afterPath? {s : List Char} {r : Reading (List Char)} (h : afterPath? s = some r) :
    s = r.text ++ r.rest := by
  unfold afterPath? at h
  split at h
  · cases h
  · next c t =>
    split at h
    · cases h; rfl
    · dsimp only at h
      split at h
      · cases h
      · next d u hd =>
        split at h
        · obtain ⟨r', hr, rfl⟩ := Option.map_eq_some_iff.1 h
          have hs := List.takeWhile_append_dropWhile (p := isSpace) (l := c :: t)
          rw [hd, eq_of_chain? hr] at hs
          simpa using hs.symm
        · cases h

theorem splits_withKeyword? {k s : List Char} {r : Reading TagForm}
    (h : withKeyword? k s = some r) : r.Splits ('%' :: s) := by
  unfold withKeyword? at h
  split at h
  · cases h
  · next t ht =>
    dsimp only at h
    split at h
    · cases h
    · obtain ⟨r', hr, rfl⟩ := Option.map_eq_some_iff.1 h
      have hs := List.takeWhile_append_dropWhile (p := isPathChar) (l := t)
      rw [eq_of_afterPath? hr] at hs
      refine ⟨by simp, ?_⟩
      rw [after?_eq_some_iff.1 ht]
      conv => lhs; rw [← hs]
      simp only [List.cons_append, List.append_assoc]

theorem splits_of_mem_tagForms {ks : Keywords} {s : List Char} {r : Reading TagForm}
    (h : r ∈ tagForms ks s) : r.Splits s := by
  unfold tagForms at h
  split at h
  · cases h
  · next c t =>
    split at h
    · next hc =>
      obtain ⟨k, _, hk⟩ := List.mem_filterMap.1 h
      exact hc ▸ splits_withKeyword? hk
    · cases h

/-- The rule that finds tags. -/
def tagRule (ks : Keywords) : Recogniser TagForm :=
  ⟨tagForm? ks, fun h => splits_of_mem_tagForms (List.mem_of_head? h)⟩

/-! ## Tags -/

/-- A reference to a field with the filters to apply, its text, and where the caller has found
    it. -/
structure Tag where
  source : String
  path : List String
  filters : List Invocation
  text : List Char
  position : Int
  deriving DecidableEq, Repr

namespace Tag

/-- The field that a tag refers to, the first segment of its path. -/
def field (t : Tag) : String := t.path.headD ""

/-- The properties of the field that a tag refers to, the other segments. -/
def properties (t : Tag) : List String := t.path.drop 1

/-- The segments of a path between its points; empty ones are left out. -/
def segments (path : List Char) : List String :=
  ((splitOn ['.'] path).filter (· ≠ [])).map String.ofList

def ofForm (f : TagForm) (text : List Char) (position : Int) : Tag :=
  ⟨String.ofList f.source, segments f.path, chainFilters f.chain, text, position⟩

/-- The tag that a text consists of, white space around it left out. -/
def parse? (ks : Keywords) (text : List Char) (position : Int) : Option Tag :=
  let s := trim text
  ((tagForms ks s).find? fun r => r.rest.isEmpty).map fun r => ofForm r.item s position

end Tag

/-- The texts of all tags of a text. -/
def tagTexts (ks : Keywords) (text : List Char) : List (List Char) :=
  ((tagRule ks).scan text).found.map Found.text

end RecordTemplate.Template
