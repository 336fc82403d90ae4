/-
  RecordTemplate.Text.Escaped

  Texts of bytes in which a backslash begins an escape for a character; all other bytes are
  Latin-1.
-/

import RecordTemplate.Text.Utf16

namespace RecordTemplate.Text

/-- The value of a hexadecimal digit. -/
def hexDigit? (a : Nat) : Option Nat :=
  if 0x30 ≤ a ∧ a ≤ 0x39 then some (a - 0x30)
  else if 0x41 ≤ a ∧ a ≤ 0x46 then some (a - 0x37)
  else if 0x61 ≤ a ∧ a ≤ 0x66 then some (a - 0x57)
  else none

/-- A code point in a number of hexadecimal digits. -/
def hexCode? (count : Nat) (s : List Nat) : Option Nat :=
  if s.length < count then none
  else
    ((s.take count).mapM hexDigit?).bind fun digits =>
      let code := digits.foldl (fun n d => n * 16 + d) 0
      if code ≤ 0x10FFFF then some code else none

/-- What a letter behind the backslash stands for. -/
def escapeLetters : List (Nat × Nat) :=
  [(0x5C, 0x5C), (0x27, 0x27), (0x22, 0x22), (0x61, 0x07), (0x62, 0x08), (0x66, 0x0C),
    (0x6E, 0x0A), (0x72, 0x0D), (0x74, 0x09), (0x76, 0x0B)]

/-- How many hexadecimal digits follow a letter behind the backslash. -/
def hexLetters : List (Nat × Nat) := [(0x78, 2), (0x75, 4), (0x55, 8)]

/-- An octal digit. -/
def isOctal (a : Nat) : Bool := 0x30 ≤ a && a ≤ 0x37

/-- The code points that an escape stands for, and the number of bytes behind the backslash
    that belong to it.  A backslash before another byte stands for itself, one at the end of
    a line removes the end; a character by its name is not read. -/
def escape? (s : List Nat) : Option (List Nat × Nat) :=
  match s with
  | [] => none
  | 0x0A :: _ => some ([], 1)
  | a :: s =>
    match escapeLetters.lookup a, hexLetters.lookup a with
    | some code, _ => some ([code], 1)
    | none, some count => (hexCode? count s).map fun code => ([code], count + 1)
    | none, none =>
      if isOctal a then
        let digits := (a :: s.take 2).takeWhile isOctal
        some ([digits.foldl (fun n d => n * 8 + (d - 0x30)) 0], digits.length)
      else if a = 0x4E then none
      else some ([0x5C, a], 1)

/-- As `escape?`, with escapes in four or eight hexadecimal digits only. -/
def numericEscape? (s : List Nat) : Option (List Nat × Nat) :=
  match s with
  | 0x75 :: s => (hexCode? 4 s).map fun code => ([code], 5)
  | 0x55 :: s => (hexCode? 8 s).map fun code => ([code], 9)
  | a :: _ => some ([0x5C, a], 1)
  | [] => some ([0x5C], 0)

/-- The code points of bytes under a rule for what stands behind a backslash. -/
def escapedCodes? (rule : List Nat → Option (List Nat × Nat)) : List Nat → Option (List Nat)
  | [] => some []
  | a :: s =>
    if a = 0x5C then
      match rule s with
      | none => none
      | some (codes, n) => (escapedCodes? rule (s.drop n)).map (codes ++ ·)
    else (escapedCodes? rule s).map (a :: ·)
termination_by s => s.length
decreasing_by all_goals simp only [List.length_drop, List.length_cons]; omega

/-- The text of bytes with escapes of all kinds. -/
def decodeEscaped (bytes : List UInt8) : Option (List Char) :=
  (escapedCodes? escape? (bytes.map UInt8.toNat)).bind ofUnits?

/-- The text of bytes with escapes by code point only. -/
def decodeNumericEscaped (bytes : List UInt8) : Option (List Char) :=
  (escapedCodes? numericEscape? (bytes.map UInt8.toNat)).bind ofUnits?

end RecordTemplate.Text
