/-
  RecordTemplate.Text.Charset.Chinese

  The character sets of simplified Chinese: GB 2312, in the extended form and in one of seven
  bits, and its extensions.  GBK adds the other ideographs of the basic block in their order;
  GB 18030 gives the remaining codes of two bytes to private characters, and codes of four
  bytes to all further characters in their order.
-/

import RecordTemplate.Text.Charset.Gb2312Table
import RecordTemplate.Text.Charset.GbkTable
import RecordTemplate.Text.Charset.Reading

namespace RecordTemplate.Text.Charset

/-! ## GB 2312 -/

/-- GB 2312 in the extended form. -/
def gb2312 : Rule := asciiOr (pairs (extendedCharAt? gb2312Runs))

/-- GB 2312 in seven bits: row and cell stand between `~{` and `~}`.  The mode tells whether
    they do. -/
def tilde (inside : Bool) (a : Nat) (s : List Nat) : Option (Piece × Bool) :=
  if a = 0x7E then
    match s, inside with
    | 0x7E :: _, false => some ((['~'], 1), false)
    | 0x7B :: _, false => some (([], 1), true)
    | 0x0A :: _, false => some (([], 1), false)
    | 0x7D :: _, true => some (([], 1), false)
    | _, _ => none
  else if 0x80 ≤ a then none
  else if inside then
    match s with
    | b :: _ =>
      if 0x21 ≤ a ∧ 0x21 ≤ b then
        (charAt? gb2312Runs (a - 0x20) (b - 0x20)).map fun c => (([c], 1), true)
      else none
    | [] => none
  else some (([Char.ofNat a], 0), false)

/-! ## GBK -/

/-- The ideographs of the basic block that GB 2312 lacks, in their order, and those for
    compatibility. -/
def furtherIdeographs : Array Char :=
  (codesWithout (charsOf gb2312Runs) 0x4E00 0x9FA5).map Char.ofNat ++ gbkCompatibility.toList

/-- The place of a second byte, among those from 0x40 on without 0x7F. -/
def trailPlace? (b : Nat) : Option Nat :=
  if 0x40 ≤ b ∧ b ≤ 0xFE ∧ b ≠ 0x7F then some (if b < 0x7F then b - 0x40 else b - 0x41) else none

/-- The ideographs around GB 2312: all codes of the rows before 0xA1, and in the rows from
    0xAA on those before 0xA1. -/
def furtherIdeograph? (a b : Nat) : Option Char :=
  (trailPlace? b).bind fun place =>
    if 0x81 ≤ a ∧ a ≤ 0xA0 then furtherIdeographs[(a - 0x81) * 190 + place]?
    else if 0xAA ≤ a ∧ a ≤ 0xFE ∧ b ≤ 0xA0 then
      furtherIdeographs[32 * 190 + (a - 0xAA) * 96 + place]?
    else none

/-- The character of two bytes in GBK. -/
def gbk? (a b : Nat) : Option Char :=
  charAt? gbkRuns a b <|> extendedCharAt? gb2312Runs a b <|> furtherIdeograph? a b

def gbk : Rule := asciiOr (pairs gbk?)

/-! ## GB 18030 -/

/-- The codes for characters of the users. -/
def userCode? (a b : Nat) : Option Nat :=
  (trailPlace? b).bind fun place =>
    if 0xAA ≤ a ∧ a ≤ 0xAF ∧ 0xA1 ≤ b then some (0xE000 + (a - 0xAA) * 94 + (b - 0xA1))
    else if 0xF8 ≤ a ∧ a ≤ 0xFE ∧ 0xA1 ≤ b then some (0xE234 + (a - 0xF8) * 94 + (b - 0xA1))
    else if 0xA1 ≤ a ∧ a ≤ 0xA7 ∧ b ≤ 0xA0 then some (0xE4C6 + (a - 0xA1) * 96 + place)
    else none

/-- The codes of two bytes that are neither characters of GBK nor of the users, in their
    order. -/
def freeCodes : List (Nat × Nat) :=
  ([0xA2, 0xA3, 0xA4, 0xA5, 0xA6, 0xA7, 0xA8, 0xA9, 0xD7, 0xFE].flatMap fun a =>
    (List.range 0xBF).map fun n => (a, 0x40 + n)).filter fun p =>
      (trailPlace? p.2).isSome && (gbk? p.1 p.2).isNone && (userCode? p.1 p.2).isNone

/-- The private character of a code of two bytes. -/
def privateChar? (a b : Nat) : Option Char :=
  (userCode? a b <|> (freeCodes.idxOf? (a, b)).map (0xE766 + ·)).map Char.ofNat

/-- The character of two bytes in GB 18030. -/
def gb18030Pair? (a b : Nat) : Option Char :=
  gbk? a b <|> charAt? gb18030Runs a b <|> privateChar? a b

/-- The characters of two bytes.  GBK has another middle dot than GB 2312. -/
def gb18030Pairs : List Char :=
  (charsOf gb2312Runs).filter (· ≠ '・') ++ charsOf gbkRuns ++ charsOf gb18030Runs ++
    furtherIdeographs.toList ++ (List.range (0xE766 - 0xE000)).map (Char.ofNat <| 0xE000 + ·) ++
    freeCodes.filterMap fun p =>
      if (charAt? gb18030Runs p.1 p.2).isNone then privateChar? p.1 p.2 else none

/-- The code points below 0x10000 without a code of one or two bytes, in their order. -/
def gb18030Rest : Array Nat :=
  codesWithout gb18030Pairs 0x80 0xD7FF ++ codesWithout gb18030Pairs 0xE000 0xFFFF

/-- The character of four bytes, of which the second and the fourth are digits. -/
def gb18030Quad? (a b c d : Nat) : Option Char :=
  if 0x81 ≤ a ∧ a ≤ 0xFE ∧ 0x81 ≤ c ∧ c ≤ 0xFE ∧ 0x30 ≤ d ∧ d ≤ 0x39 then
    let place (first : Nat) :=
      (((a - first) * 10 + (b - 0x30)) * 126 + (c - 0x81)) * 10 + (d - 0x30)
    if a < 0x85 then (gb18030Rest[place 0x81]?).map Char.ofNat
    else if 0x90 ≤ a ∧ place 0x90 < 0x100000 then some (Char.ofNat (0x10000 + place 0x90))
    else none
  else none

def gb18030 : Rule := asciiOr fun a s =>
  match s with
  | b :: s =>
    if 0x30 ≤ b ∧ b ≤ 0x39 then
      match s with
      | c :: d :: _ => (gb18030Quad? a b c d).map fun c => ([c], 3)
      | _ => none
    else if 0x81 ≤ a ∧ a ≤ 0xFE then double? (gb18030Pair? a b)
    else none
  | [] => none

end RecordTemplate.Text.Charset
