/-
  RecordTemplate.Text.Utf16

  Texts as units of sixteen bits.  A character outside the first 0x10000 code points is two
  surrogates, of which neither stands for anything alone.
-/

namespace RecordTemplate.Text

/-- The first half of a pair of surrogates. -/
def isHighSurrogate (u : Nat) : Bool := 0xD800 ≤ u && u < 0xDC00

/-- The second half of a pair of surrogates. -/
def isLowSurrogate (u : Nat) : Bool := 0xDC00 ≤ u && u < 0xE000

/-- The character of a pair of surrogates. -/
def joinSurrogates (high low : Nat) : Char :=
  Char.ofNat (0x10000 + (high - 0xD800) * 0x400 + (low - 0xDC00))

/-- The text of code points among which characters may be pairs of surrogates. -/
def ofUnits? : List Nat → Option (List Char)
  | [] => some []
  | u :: rest =>
    if isHighSurrogate u then
      match rest with
      | v :: rest =>
        if isLowSurrogate v then (ofUnits? rest).map (joinSurrogates u v :: ·) else none
      | [] => none
    else if isLowSurrogate u then none
    else (ofUnits? rest).map (Char.ofNat u :: ·)

/-- Bytes in pairs as numbers; nothing if the last byte has no partner. -/
def units? (bigEndian : Bool) : List UInt8 → Option (List Nat)
  | [] => some []
  | [_] => none
  | a :: b :: rest =>
    (units? bigEndian rest).map fun us =>
      (if bigEndian then a.toNat * 0x100 + b.toNat else b.toNat * 0x100 + a.toNat) :: us

/-- The text of bytes in UTF-16. -/
def decodeUtf16 (bigEndian : Bool) (bytes : List UInt8) : Option (List Char) :=
  (units? bigEndian bytes).bind ofUnits?

end RecordTemplate.Text
