/-
  RecordTemplate.Text.Utf7

  UTF-7: ASCII in which `+` begins units of sixteen bits, written in digits of six bits each.
  The first byte that is no digit ends them; a hyphen there belongs to the end.
-/

import RecordTemplate.Text.Utf16

namespace RecordTemplate.Text

/-- The value of a digit of six bits. -/
def sextet? (a : Nat) : Option Nat :=
  if 0x41 ≤ a ∧ a ≤ 0x5A then some (a - 0x41)
  else if 0x61 ≤ a ∧ a ≤ 0x7A then some (a - 0x61 + 26)
  else if 0x30 ≤ a ∧ a ≤ 0x39 then some (a - 0x30 + 52)
  else if a = 0x2B then some 62
  else if a = 0x2F then some 63
  else none

/-- The units of digits: `acc` holds the last `bits` bits that fill no unit.  What is left in
    the end must be zero and shorter than a digit. -/
def sextetUnits? (acc bits : Nat) : List Nat → Option (List Nat)
  | [] => if bits < 6 ∧ acc = 0 then some [] else none
  | d :: digits =>
    let acc := acc * 64 + d
    if 16 ≤ bits + 6 then
      let left := bits + 6 - 16
      (sextetUnits? (acc % Nat.pow 2 left) left digits).map (acc / Nat.pow 2 left :: ·)
    else sextetUnits? acc (bits + 6) digits

/-- The code points of bytes; `none` as the first argument outside of digits, else the digits
    so far, the last one first. -/
def utf7Units? : Option (List Nat) → List Nat → Option (List Nat)
  | none, [] => some []
  | some digits, [] => sextetUnits? 0 0 digits.reverse
  | none, 0x2B :: 0x2D :: s => (utf7Units? none s).map (0x2B :: ·)
  | none, [0x2B] => some []
  | none, 0x2B :: a :: s =>
    (sextet? a).bind fun d => utf7Units? (some [d]) s
  | none, a :: s => if a < 0x80 then (utf7Units? none s).map (a :: ·) else none
  | some digits, a :: s =>
    match sextet? a with
    | some d => utf7Units? (some (d :: digits)) s
    | none =>
      (sextetUnits? 0 0 digits.reverse).bind fun units =>
        if a = 0x2D then (utf7Units? none s).map (units ++ ·)
        else if a < 0x80 then (utf7Units? none s).map (units ++ a :: ·)
        else none

/-- The text of bytes in UTF-7. -/
def decodeUtf7 (bytes : List UInt8) : Option (List Char) :=
  (utf7Units? none (bytes.map UInt8.toNat)).bind ofUnits?

end RecordTemplate.Text
