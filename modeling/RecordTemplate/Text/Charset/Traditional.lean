/-
  RecordTemplate.Text.Charset.Traditional

  The character sets of traditional Chinese: Big5, with the additions of a vendor and with
  those for Hong Kong.
-/

import RecordTemplate.Text.Charset.Big5Table
import RecordTemplate.Text.Charset.HongKongTable
import RecordTemplate.Text.Charset.Reading

namespace RecordTemplate.Text.Charset

/-- The place of a second byte. -/
def big5Place? (b : Nat) : Option Nat :=
  if 0x40 ≤ b ∧ b ≤ 0x7E then some (b - 0x40)
  else if 0xA1 ≤ b ∧ b ≤ 0xFE then some (b - 0xA1 + 63)
  else none

/-- Codes of two bytes whose text is a rule of the first byte and the place of the second. -/
def placed (text? : Nat → Nat → Option (List Char)) : Rule := asciiOr fun a s =>
  match s with
  | b :: _ => ((big5Place? b).bind (text? a)).map (·, 1)
  | [] => none

def big5 : Rule := placed fun a place => (charAt? big5Runs a place).map ([·])

/-- Big5 with additions and replacements of a vendor. -/
def vendorBig5 : Rule := placed fun a place =>
  (charAt? big5VendorRuns a place <|> charAt? big5Runs a place).map ([·])

/-- The places of Big5 in row 0xC6 that the supplement for Hong Kong leaves empty. -/
def withdrawnPlaces : List Nat := [109, 113, 115, 117, 124, 125]

/-- Big5 with the supplement for Hong Kong. -/
def hongKongBig5 : Rule := placed fun a place =>
  if a = 0xC6 ∧ withdrawnPlaces.contains place then none
  else ((charAt? hongKongRuns a place <|> charAt? big5Runs a place).map ([·])) <|>
    textAt? hongKongPairs a place

end RecordTemplate.Text.Charset
