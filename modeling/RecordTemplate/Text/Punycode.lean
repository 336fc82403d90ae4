/-
  RecordTemplate.Text.Punycode

  Punycode: the ASCII characters of a text, and behind the last hyphen where to insert the
  others.  They follow in the order of their code points; each is a number of places to skip,
  in digits whose weights depend on the numbers before.
-/

import RecordTemplate.Text.Utf16

namespace RecordTemplate.Text.Punycode

/-- The value of a digit. -/
def digit? (a : Nat) : Option Nat :=
  if 0x41 ≤ a ∧ a ≤ 0x5A then some (a - 0x41)
  else if 0x61 ≤ a ∧ a ≤ 0x7A then some (a - 0x61)
  else if 0x30 ≤ a ∧ a ≤ 0x39 then some (a - 0x30 + 26)
  else none

/-- A digit below the threshold of its place ends a number. -/
def threshold (place bias : Nat) : Nat := min 26 (max 1 (36 * (place + 1) - bias))

/-- A number, and the digits behind it. -/
def number? (bias place weight acc : Nat) : List Nat → Option (Nat × List Nat)
  | [] => none
  | a :: s =>
    match digit? a with
    | none => none
    | some d =>
      let t := threshold place bias
      if d < t then some (acc + d * weight, s)
      else number? bias (place + 1) (weight * (36 - t)) (acc + d * weight) s

theorem length_of_number? {bias place weight acc n : Nat} {s rest : List Nat}
    (h : number? bias place weight acc s = some (n, rest)) : rest.length < s.length := by
  induction s generalizing place weight acc with
  | nil => simp [number?] at h
  | cons a s ih =>
    simp only [number?] at h
    split at h
    · cases h
    · split at h
      · simp only [Option.some.injEq, Prod.mk.injEq] at h
        simp [h.2]
      · exact Nat.lt_succ_of_lt (ih h)

/-- Divides by 35 until the rest is small, and counts 36 for each time. -/
def divisions (delta acc : Nat) : Nat × Nat :=
  if 455 < delta then divisions (delta / 35) (acc + 36) else (delta, acc)
termination_by delta
decreasing_by exact Nat.div_lt_self (by omega) (by omega)

/-- The bias behind a number, of the text's length with the new character. -/
def adapt (delta : Nat) (isFirst : Bool) (length : Nat) : Nat :=
  let scaled := if isFirst then delta / 700 else delta / 2
  let (rest, acc) := divisions (scaled + scaled / length) 0
  acc + 36 * rest / (rest + 38)

/-- Inserts the characters of digits: `code` is the code point so far and `place` the place
    from which the next number counts. -/
def insertAll? (bias code place : Nat) (isFirst : Bool) (text digits : List Nat) :
    Option (List Nat) :=
  match digits with
  | [] => some text
  | a :: s =>
    match _h : number? bias 0 1 0 (a :: s) with
    | none => none
    | some (delta, rest) =>
      let length := text.length + 1
      let place := place + delta
      let code := code + place / length
      if code ≤ 0x10FFFF then
        insertAll? (adapt delta isFirst length) code (place % length + 1) false
          (text.insertIdx (place % length) code) rest
      else none
termination_by digits.length
decreasing_by exact length_of_number? (by assumption)

/-- The text of bytes in Punycode. -/
def decode (bytes : List UInt8) : Option (List Char) :=
  let codes := bytes.map UInt8.toNat
  let tail := (codes.reverse.takeWhile (· ≠ 0x2D)).reverse
  let basic := codes.take (codes.length - tail.length - 1)
  if codes.all (· < 0x80) then (insertAll? 72 0x80 0 true basic tail).bind ofUnits? else none

end RecordTemplate.Text.Punycode
