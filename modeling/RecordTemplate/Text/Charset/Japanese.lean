/-
  RecordTemplate.Text.Charset.Japanese

  The extended and the shifted forms of the Japanese character sets.  In the extended form
  row and cell are bytes from 0xA1 on, and a byte before them leads to another set; in the
  shifted form two rows share a first byte, which leaves room for kana in single bytes.
-/

import RecordTemplate.Text.Charset.JapaneseVendorTable
import RecordTemplate.Text.Charset.JisX0208Table
import RecordTemplate.Text.Charset.JisX0212Table
import RecordTemplate.Text.Charset.JisX0213Table
import RecordTemplate.Text.Charset.Reading

namespace RecordTemplate.Text.Charset

/-! ## Character sets -/

/-- Katakana of half width, from byte 0xA1 on. -/
def kana? (a : Nat) : Option Char :=
  if 0xA1 ≤ a ∧ a ≤ 0xDF then some (Char.ofNat (0xFF61 + (a - 0xA1))) else none

def jisX0208? : Nat → Nat → Option Char := charAt? jisX0208Runs

def jisX0212? : Nat → Nat → Option Char := charAt? jisX0212Runs

/-- Editions of JIS X 0213. -/
inductive Edition where
  | of2000
  | of2004
  deriving DecidableEq

/-- The characters that the second edition has added to the first plane, by row and cell. -/
def revisedCells : List (Nat × Nat) :=
  [(14, 1), (15, 94), (47, 52), (47, 94), (84, 7), (94, 90), (94, 91), (94, 92), (94, 93),
    (94, 94)]

/-- The first plane of JIS X 0213, which contains JIS X 0208. -/
def firstPlane? (edition : Edition) (row cell : Nat) : Option (List Char) :=
  if edition = .of2000 ∧ revisedCells.contains (row, cell) then none
  else ((jisX0208? row cell <|> charAt? jisX0213Runs row cell).map ([·])) <|>
    textAt? jisX0213Pairs row cell

/-- The second plane of JIS X 0213; a variant of a character is another one in the first
    edition. -/
def secondPlane? (edition : Edition) (row cell : Nat) : Option Char :=
  if edition = .of2000 ∧ row = 93 ∧ cell = 27 then some '鬝' else charAt? jisX0213SecondRuns row cell

/-! ## The extended form -/

/-- JIS X 0208; kana behind 0x8E, and JIS X 0212 behind 0x8F. -/
def eucJp : Rule := asciiOr fun a s =>
  match a, s with
  | 0x8E, b :: _ => double? (kana? b)
  | 0x8F, b :: c :: _ => (extendedCharAt? jisX0212Runs b c).map fun c => ([c], 2)
  | a, b :: _ => double? (extendedCharAt? jisX0208Runs a b)
  | _, [] => none

/-- The first plane of JIS X 0213; kana behind 0x8E, and behind 0x8F the second plane together
    with JIS X 0212, which has other rows. -/
def eucJisX0213 (edition : Edition) : Rule := asciiOr fun a s =>
  match a, s with
  | 0x8E, b :: _ => double? (kana? b)
  | 0x8F, b :: c :: _ =>
    if 0xA1 ≤ b ∧ 0xA1 ≤ c then
      (secondPlane? edition (b - 0xA0) (c - 0xA0) <|> jisX0212? (b - 0xA0) (c - 0xA0)).map
        fun c => ([c], 2)
    else none
  | a, b :: _ =>
    if 0xA1 ≤ a ∧ 0xA1 ≤ b then (firstPlane? edition (a - 0xA0) (b - 0xA0)).map (·, 1) else none
  | _, [] => none

/-! ## The shifted form -/

/-- Row and cell of two bytes in the shifted form. -/
def shiftedCell? (a b : Nat) : Option (Nat × Nat) :=
  if ((0x81 ≤ a ∧ a ≤ 0x9F) ∨ (0xE0 ≤ a ∧ a ≤ 0xFC)) ∧ 0x40 ≤ b ∧ b ≤ 0xFC ∧ b ≠ 0x7F then
    let half := if a < 0xA0 then a - 0x81 else a - 0xC1
    let place := if b < 0x7F then b - 0x40 else b - 0x41
    some (2 * half + place / 94 + 1, place % 94 + 1)
  else none

/-- Kana in single bytes, and a rule for the row and the cell of two bytes. -/
def shifted (text? : Nat → Nat → Option (List Char)) : Rule := fun a s =>
  match kana? a, s with
  | some c, _ => some ([c], 0)
  | none, b :: _ => ((shiftedCell? a b).bind fun p => text? p.1 p.2).map (·, 1)
  | none, [] => none

/-- JIS X 0208. -/
def shiftJis : Rule := asciiOr (shifted fun row cell => (jisX0208? row cell).map ([·]))

/-- The single bytes to which only a vendor gives characters. -/
def vendorSingle? : Nat → Option Char
  | 0x80 => some '\u0080'
  | 0xA0 => some '\uF8F0'
  | 0xFD => some '\uF8F1'
  | 0xFE => some '\uF8F2'
  | 0xFF => some '\uF8F3'
  | _ => none

/-- JIS X 0208 with the additions of vendors; the rows from 95 to 114 are private. -/
def vendorCell? (row cell : Nat) : Option Char :=
  if 95 ≤ row ∧ row ≤ 114 then some (Char.ofNat (0xE000 + (row - 95) * 94 + (cell - 1)))
  else charAt? japaneseVendorRuns row cell <|> jisX0208? row cell

/-- The shifted form of a vendor. -/
def vendorShiftJis : Rule := asciiOr fun a s =>
  match vendorSingle? a with
  | some c => some ([c], 0)
  | none => shifted (fun row cell => (vendorCell? row cell).map ([·])) a s

/-- The row of the second plane that the shifted form keeps in a row behind the first plane. -/
def secondPlaneRow (row : Nat) : Nat :=
  if 104 ≤ row then row - 26
  else if 100 ≤ row ∨ row = 96 then row - 88
  else row - 94

/-- Both planes of JIS X 0213.  The characters that take the places of the yen sign and of the
    overline have codes of two bytes. -/
def shiftedPlanes? (edition : Edition) (row cell : Nat) : Option (List Char) :=
  if row = 1 ∧ cell = 32 then some ['\\']
  else if row = 2 ∧ cell = 18 then some ['~']
  else if row ≤ 94 then firstPlane? edition row cell
  else (secondPlane? edition (secondPlaneRow row) cell).map ([·])

/-- JIS X 0213, with the yen sign and the overline in single bytes. -/
def shiftJisX0213 (edition : Edition) : Rule := fun a s =>
  if a = 0x5C then some (['¥'], 0)
  else if a = 0x7E then some (['‾'], 0)
  else asciiOr (shifted (shiftedPlanes? edition)) a s

end RecordTemplate.Text.Charset
