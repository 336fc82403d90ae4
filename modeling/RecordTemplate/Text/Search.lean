/-
  RecordTemplate.Text.Search

  Trimming, searching, splitting and replacing in texts, all by exact comparison of
  characters and from left to right.
-/

import RecordTemplate.Text.CharClass

namespace RecordTemplate.Text

/-! ## Trimming -/

/-- A text without the characters of a class at its end. -/
def trimRightBy (p : Char → Bool) (s : List Char) : List Char := (s.reverse.dropWhile p).reverse

/-- A text without the characters of a class at either end. -/
def trimBy (p : Char → Bool) (s : List Char) : List Char := trimRightBy p (s.dropWhile p)

/-- A text without surrounding white space. -/
def trim (s : List Char) : List Char := trimBy isSpace s

/-! ## Searching -/

/-- What follows `piece` at the beginning of `s`. -/
def after? (piece s : List Char) : Option (List Char) :=
  match piece, s with
  | [], s => some s
  | _ :: _, [] => none
  | p :: ps, c :: cs => if p = c then after? ps cs else none

theorem after?_eq_some_iff {piece s rest : List Char} :
    after? piece s = some rest ↔ s = piece ++ rest := by
  induction piece generalizing s with
  | nil => simp [after?, eq_comm]
  | cons p ps ih =>
    cases s with
    | nil => simp [after?]
    | cons c cs =>
      by_cases h : p = c
      · subst h; simp [after?, ih]
      · simp [after?, h, Ne.symm h]

/-- Whether `piece` stands at the beginning of `s`. -/
def startsWith (piece s : List Char) : Bool := (after? piece s).isSome

/-- The text before and after the first occurrence of `piece`. -/
def cut? (piece : List Char) (s : List Char) : Option (List Char × List Char) :=
  match after? piece s with
  | some rest => some ([], rest)
  | none =>
    match s with
    | [] => none
    | c :: cs => (cut? piece cs).map fun r => (c :: r.1, r.2)

theorem eq_of_cut? {piece s before rest : List Char} (h : cut? piece s = some (before, rest)) :
    s = before ++ piece ++ rest := by
  induction s generalizing before with
  | nil =>
    unfold cut? at h
    split at h
    · next r hr => cases h; simpa using after?_eq_some_iff.1 hr
    · cases h
  | cons c cs ih =>
    unfold cut? at h
    split at h
    · next r hr => cases h; simpa using after?_eq_some_iff.1 hr
    · obtain ⟨⟨b, r⟩, hb, he⟩ := Option.map_eq_some_iff.1 h
      cases he
      simp [ih hb]

/-- Whether `piece` occurs in `s`. -/
def occursIn (piece s : List Char) : Bool := (cut? piece s).isSome

/-! ## Splitting and replacing -/

/-- The pieces of `s` between the occurrences of a non-empty separator; an empty separator
    never occurs. -/
def splitOn (separator s : List Char) : List (List Char) :=
  if separator = [] then [s]
  else match _h : cut? separator s with
    | none => [s]
    | some (before, rest) => before :: splitOn separator rest
termination_by s.length
decreasing_by
  have hs := eq_of_cut? (by assumption)
  have hp : 0 < separator.length := List.length_pos_iff.2 (by assumption)
  simp only [hs, List.length_append]
  omega

/-- The pieces of a list of texts put together with a separator between them. -/
def joinWith (separator : List Char) : List (List Char) → List Char
  | [] => []
  | [s] => s
  | s :: rest => s ++ separator ++ joinWith separator rest

/-- `s` with every occurrence of the non-empty text `old` replaced. -/
def replaceAll (old new s : List Char) : List Char := joinWith new (splitOn old s)

end RecordTemplate.Text
