/-
  RecordTemplate.Text.Utf8

  UTF-8: the bytes of a text, and the text of bytes.  Only shortest forms of Unicode scalar
  values are read.
-/

namespace RecordTemplate.Text

/-! ## Writing -/

/-- The lowest six bits of a number in a byte that continues a character. -/
def continuation (n : Nat) : UInt8 := UInt8.ofNat (0x80 + n % 0x40)

/-- The bytes of a character. -/
def encodeChar (c : Char) : List UInt8 :=
  let n := c.toNat
  if n < 0x80 then [UInt8.ofNat n]
  else if n < 0x800 then [UInt8.ofNat (0xC0 + n / 0x40), continuation n]
  else if n < 0x10000 then
    [UInt8.ofNat (0xE0 + n / 0x1000), continuation (n / 0x40), continuation n]
  else
    [UInt8.ofNat (0xF0 + n / 0x40000), continuation (n / 0x1000), continuation (n / 0x40),
      continuation n]

/-- The bytes of a text. -/
def encodeUtf8 (s : List Char) : List UInt8 := s.flatMap encodeChar

/-! ## Reading -/

/-- How a first byte begins a character: its bits of the code point, the number of bytes that
    follow, and the least code point that needs so many. -/
def leading? (b : UInt8) : Option (Nat × Nat × Nat) :=
  let n := b.toNat
  if n < 0x80 then some (n, 0, 0)
  else if n < 0xC0 then none
  else if n < 0xE0 then some (n - 0xC0, 1, 0x80)
  else if n < 0xF0 then some (n - 0xE0, 2, 0x800)
  else if n < 0xF8 then some (n - 0xF0, 3, 0x10000)
  else none

/-- A code point completed by a number of continuation bytes, and what follows them. -/
def continued? (acc : Nat) : Nat → List UInt8 → Option (Nat × List UInt8)
  | 0, s => some (acc, s)
  | _ + 1, [] => none
  | k + 1, b :: s =>
    if 0x80 ≤ b.toNat ∧ b.toNat < 0xC0 then continued? (acc * 0x40 + (b.toNat - 0x80)) k s
    else none

theorem length_of_continued? {acc k n : Nat} {s rest : List UInt8}
    (h : continued? acc k s = some (n, rest)) : rest.length ≤ s.length := by
  induction k generalizing acc s with
  | zero => simp only [continued?, Option.some.injEq, Prod.mk.injEq] at h; simp [h.2]
  | succ k ih =>
    cases s with
    | nil => simp [continued?] at h
    | cons b s =>
      simp only [continued?] at h
      split at h
      · exact Nat.le_succ_of_le (ih h)
      · cases h

/-- The text of bytes in UTF-8. -/
def decodeUtf8 : List UInt8 → Option (List Char)
  | [] => some []
  | b :: s =>
    match leading? b with
    | none => none
    | some (bits, k, least) =>
      match _h : continued? bits k s with
      | none => none
      | some (n, rest) =>
        if least ≤ n ∧ n.isValidChar then (decodeUtf8 rest).map (Char.ofNat n :: ·) else none
termination_by s => s.length
decreasing_by
  have := length_of_continued? (by assumption)
  simp only [List.length_cons]
  omega

end RecordTemplate.Text
