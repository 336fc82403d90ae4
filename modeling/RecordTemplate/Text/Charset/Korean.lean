/-
  RecordTemplate.Text.Charset.Korean

  The Korean character sets: KS X 1001 alone, with the syllables that it lacks, and by the
  letters of which the syllables are made.
-/

import RecordTemplate.Text.Charset.KsX1001Table
import RecordTemplate.Text.Charset.Reading

namespace RecordTemplate.Text.Charset

/-! ## Syllables -/

/-- The syllable of an initial, a vowel and a final, which is 0 without one. -/
def syllable (initial vowel final : Nat) : Char :=
  Char.ofNat (0xAC00 + initial * 588 + vowel * 28 + final)

/-- The initials, in their order in the syllables. -/
def initials : List Char :=
  ['ㄱ', 'ㄲ', 'ㄴ', 'ㄷ', 'ㄸ', 'ㄹ', 'ㅁ', 'ㅂ', 'ㅃ', 'ㅅ', 'ㅆ', 'ㅇ', 'ㅈ', 'ㅉ', 'ㅊ', 'ㅋ', 'ㅌ',
    'ㅍ', 'ㅎ']

/-- The finals, in their order in the syllables. -/
def finals : List Char :=
  ['ㄱ', 'ㄲ', 'ㄳ', 'ㄴ', 'ㄵ', 'ㄶ', 'ㄷ', 'ㄹ', 'ㄺ', 'ㄻ', 'ㄼ', 'ㄽ', 'ㄾ', 'ㄿ', 'ㅀ', 'ㅁ', 'ㅂ',
    'ㅄ', 'ㅅ', 'ㅆ', 'ㅇ', 'ㅈ', 'ㅊ', 'ㅋ', 'ㅌ', 'ㅍ', 'ㅎ']

/-- The letter in a cell of row 4. -/
def letterOf (b : Nat) : Char := Char.ofNat (0x3131 + (b - 0xA1))

/-! ## KS X 1001 -/

/-- A syllable in eight bytes: a filler and three letters, of which the last may be a filler.
    A filler has no character of its own here. -/
def spelledSyllable? : List Nat → Option Char
  | 0xD4 :: 0xA4 :: a :: 0xA4 :: b :: 0xA4 :: c :: _ =>
    let initial := if 0xA1 ≤ a then initials.idxOf? (letterOf a) else none
    let vowel := if 0xBF ≤ b ∧ b ≤ 0xD3 then some (b - 0xBF) else none
    let final := if c = 0xD4 then some 0
      else if 0xA1 ≤ c then (finals.idxOf? (letterOf c)).map (· + 1) else none
    match initial, vowel, final with
    | some i, some v, some f => some (syllable i v f)
    | _, _, _ => none
  | _ => none

/-- KS X 1001 in the extended form. -/
def eucKr : Rule := asciiOr fun a s =>
  match a, s with
  | 0xA4, 0xD4 :: _ => (spelledSyllable? s).map fun c => ([c], 7)
  | a, b :: _ => double? (extendedCharAt? ksX1001Runs a b)
  | _, [] => none

/-! ## All syllables -/

/-- The syllables that KS X 1001 lacks, in their order. -/
def furtherSyllables : Array Nat := codesWithout (charsOf ksX1001Runs) 0xAC00 0xD7A3

/-- The place of a byte among letters and then the bytes from 0x81 on. -/
def letterPlace? (b : Nat) : Option Nat :=
  if 0x41 ≤ b ∧ b ≤ 0x5A then some (b - 0x41)
  else if 0x61 ≤ b ∧ b ≤ 0x7A then some (b - 0x61 + 26)
  else if 0x81 ≤ b ∧ b ≤ 0xFE then some (b - 0x81 + 52)
  else none

/-- The character of two bytes: KS X 1001, and before it the other syllables. -/
def unifiedHangul? (a b : Nat) : Option Char :=
  if 0xA1 ≤ a ∧ 0xA1 ≤ b then extendedCharAt? ksX1001Runs a b
  else (letterPlace? b).bind fun place =>
    -- the rows before 0xA1 have all places, those from it on only the ones before it
    let before := if a < 0xA1 then (a - 0x81) * 178 else 32 * 178 + (a - 0xA1) * 84
    if 0x81 ≤ a then (furtherSyllables[before + place]?).map Char.ofNat else none

/-- KS X 1001 with all syllables. -/
def unifiedHangul : Rule := asciiOr (pairs unifiedHangul?)

/-! ## Syllables by letters -/

/-- A part of a syllable: none, or the number of a letter. -/
inductive Jamo where
  | filler
  | letter (n : Nat)

/-- The initial of five bits. -/
def initialOf? (n : Nat) : Option Jamo :=
  if n = 1 then some .filler
  else if 2 ≤ n ∧ n ≤ 20 then some (.letter (n - 2))
  else none

/-- The vowel of five bits; its numbers leave gaps. -/
def vowelOf? (n : Nat) : Option Jamo :=
  if n = 2 then some .filler
  else if 3 ≤ n ∧ n ≤ 7 then some (.letter (n - 3))
  else if 10 ≤ n ∧ n ≤ 15 then some (.letter (n - 5))
  else if 18 ≤ n ∧ n ≤ 23 then some (.letter (n - 7))
  else if 26 ≤ n ∧ n ≤ 29 then some (.letter (n - 9))
  else none

/-- The final of five bits. -/
def finalOf? (n : Nat) : Option Jamo :=
  if n = 1 then some .filler
  else if 2 ≤ n ∧ n ≤ 17 then some (.letter (n - 1))
  else if 19 ≤ n ∧ n ≤ 29 then some (.letter (n - 2))
  else none

/-- The character of three parts: a syllable, or a letter that stands alone. -/
def combined? : Jamo → Jamo → Jamo → Option Char
  | .letter i, .letter v, .filler => some (syllable i v 0)
  | .letter i, .letter v, .letter f => some (syllable i v f)
  | .letter i, .filler, .filler => initials[i]?
  | .filler, .letter v, .filler => some (Char.ofNat (0x314F + v))
  | .filler, .filler, .letter f => finals[f - 1]?
  | .filler, .filler, .filler => some '\u3000'
  | _, _, _ => none

/-- The rows of KS X 1001 without syllables, two of which share a first byte. -/
def symbolCell? (a b : Nat) : Option (Nat × Nat) :=
  if 0xD9 ≤ a ∧ a ≤ 0xF9 ∧ a ≠ 0xDF ∧ 0x31 ≤ b ∧ ¬(0x7F ≤ b ∧ b < 0x91) ∧ b ≠ 0xFF ∧
      ¬(a = 0xDA ∧ 0xA1 ≤ b ∧ b ≤ 0xD3) then
    let row := if a < 0xE0 then 2 * (a - 0xD9) + 1 else 2 * (a - 0xE0) + 42
    let place := if b < 0x91 then b - 0x31 else b - 0x43
    some (row + place / 94, place % 94 + 1)
  else none

/-- The character of two bytes: fifteen bits of three parts, or a symbol. -/
def johab? (a b : Nat) : Option Char :=
  if a < 0xD8 then
    match initialOf? (a / 4 % 32), vowelOf? (a % 4 * 8 + b / 32), finalOf? (b % 32) with
    | some i, some v, some f => combined? i v f
    | _, _, _ => none
  else (symbolCell? a b).bind fun p => charAt? ksX1001Runs p.1 p.2

/-- Syllables by letters, with the symbols and ideographs of KS X 1001. -/
def johab : Rule := asciiOr (pairs johab?)

end RecordTemplate.Text.Charset
