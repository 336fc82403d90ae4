/-
  RecordTemplate.Text.Charset.Iso2022

  Texts in seven bits that switch between character sets.  An escape sequence designates a
  set for one of three places; the first place holds the set of the characters, unless the
  text is shifted to the second one, and a character of the third place stands behind an
  escape of its own.
-/

import RecordTemplate.Text.Charset.Chinese
import RecordTemplate.Text.Charset.Japanese
import RecordTemplate.Text.Charset.Korean
import RecordTemplate.Text.Charset.SingleByteTable

namespace RecordTemplate.Text.Charset

/-! ## Character sets -/

/-- The character sets that can be designated. -/
inductive Graphic where
  | ascii
  | latin1
  | greek
  /-- JIS X 0201: ASCII with the yen sign and the overline. -/
  | roman
  | kana
  | gb2312
  | jisX0208
  /-- The first edition of JIS X 0208, which is read as the present one. -/
  | jisX0208First
  | jisX0212
  | firstPlane (edition : Edition)
  | secondPlane
  | ksX1001
  deriving DecidableEq

namespace Graphic

/-- Whether a character takes two bytes. -/
def isDouble : Graphic → Bool
  | ascii | latin1 | greek | roman | kana => false
  | _ => true

/-- The byte that ends an escape sequence for the set. -/
def final : Graphic → Nat
  | ascii => 0x42
  | latin1 => 0x41
  | greek => 0x46
  | roman => 0x4A
  | kana => 0x49
  | gb2312 => 0x41
  | jisX0208 => 0x42
  | jisX0208First => 0x40
  | jisX0212 => 0x44
  | firstPlane .of2000 => 0x4F
  | firstPlane .of2004 => 0x51
  | secondPlane => 0x50
  | ksX1001 => 0x43

/-- The text of a row and a cell. -/
def cell? (g : Graphic) (row cell : Nat) : Option (List Char) :=
  match g with
  | gb2312 => (charAt? gb2312Runs row cell).map ([·])
  | jisX0208 | jisX0208First => (jisX0208? row cell).map ([·])
  | jisX0212 => (jisX0212? row cell).map ([·])
  | firstPlane edition => firstPlane? edition row cell
  | secondPlane => (secondPlane? .of2004 row cell).map ([·])
  | ksX1001 => (charAt? ksX1001Runs row cell).map ([·])
  | _ => none

/-- The character of a byte; the sets of the third place have none. -/
def char? (g : Graphic) (a : Nat) : Option Char :=
  match g with
  | ascii => some (Char.ofNat a)
  | roman =>
    if a = 0x5C then some '¥' else if a = 0x7E then some '‾' else some (Char.ofNat a)
  | kana => kana? (a + 0x80)
  | _ => none

/-- What the first bytes stand for in a set. -/
def piece? (g : Graphic) (a : Nat) (s : List Nat) : Option Piece :=
  if g.isDouble then
    match s with
    | b :: _ => if 0x21 ≤ a ∧ 0x21 ≤ b then (g.cell? (a - 0x20) (b - 0x20)).map (·, 1) else none
    | [] => none
  else (g.char? a).map fun c => ([c], 0)

/-- The character of a byte behind an escape for the third place. -/
def third? (g : Graphic) (a : Nat) : Option Char :=
  match g with
  | latin1 => if a < 0x80 then some (Char.ofNat (a + 0x80)) else none
  | greek =>
    if a < 0x80 then
      (singleByteSets.find? (·.name == "iso8859_7")).bind fun c =>
        (c.read? [UInt8.ofNat (a + 0x80)]).bind List.head?
    else none
  | ascii => if a < 0x80 then some (Char.ofNat a) else none
  | _ => none

end Graphic

/-! ## Modes -/

/-- Which sets may be designated besides ASCII, and by which means. -/
structure Scheme where
  sets : List Graphic
  /-- Whether bytes shift to the second place. -/
  shifts : Bool
  /-- Whether there is a third place. -/
  third : Bool
  /-- Whether a revision may be announced before a designation. -/
  announces : Bool

/-- The designated sets, and how the bytes that follow are taken. -/
structure Designations where
  first : Graphic
  second : Graphic
  third : Graphic
  shifted : Bool
  /-- Within an unknown escape sequence, whose bytes stand for themselves. -/
  verbatim : Bool

/-- At the beginning all is ASCII. -/
def Designations.initial : Designations := ⟨.ascii, .ascii, .ascii, false, false⟩

/-- The bytes that end an escape sequence. -/
def endsEscape (a : Nat) : Bool := 0x40 ≤ a && a ≤ 0x5A

/-- The bytes that begin an escape sequence of a designation. -/
def beginsDesignation (a : Nat) : Bool := [0x28, 0x29, 0x24, 0x2E, 0x26].contains a

/-! ## Designations -/

/-- The number of bytes of an escape sequence; its first byte has number 0.  An announcement
    of a revision, `&@`, does not end it. -/
def escapeLength? (s : Scheme) (i : Nat) (rest : List Nat) : Option Nat :=
  if 16 ≤ i then none
  else match rest with
    | [] => none
    | a :: rest =>
      if endsEscape a then some (i + 1)
      else if s.announces ∧ a = 0x26 ∧ rest.head? = some 0x40 then
        escapeLength? s (i + 3) (rest.drop 2)
      else escapeLength? s (i + 1) rest
termination_by 16 - i

/-- The set with a final byte. -/
def Scheme.set? (s : Scheme) (double : Bool) (final : Nat) : Option Graphic :=
  if !double && final == Graphic.ascii.final then some .ascii
  else s.sets.find? fun g => g.isDouble == double && g.final == final

/-- The designations after the bytes of an escape sequence behind the escape itself. -/
def Designations.escape? (d : Designations) (s : Scheme) : List Nat → Option Designations
  | [0x24, f] => (s.set? true f).map fun g => { d with first := g }
  | [0x28, f] => (s.set? false f).map fun g => { d with first := g }
  | [0x29, f] => (s.set? false f).map fun g => { d with second := g }
  | [0x2E, f] => if s.third then (s.set? false f).map fun g => { d with third := g } else none
  | [0x24, 0x28, f] => (s.set? true f).map fun g => { d with first := g }
  | [0x24, 0x29, f] => (s.set? true f).map fun g => { d with second := g }
  | [_, _, 0x1B, 0x24, 0x42] =>
    if s.announces then (s.set? true 0x42).map fun g => { d with first := g } else none
  | _ => none

/-! ## Reading -/

/-- What the first bytes stand for, and the designations behind them. -/
def Scheme.rule (s : Scheme) (d : Designations) (a : Nat) (rest : List Nat) :
    Option (Piece × Designations) :=
  if d.verbatim then some (([Char.ofNat a], 0), { d with verbatim := !endsEscape a })
  else if a = 0x1B then
    match rest with
    | b :: more =>
      if beginsDesignation b then
        (escapeLength? s 1 rest).bind fun n =>
          (d.escape? s (rest.take (n - 1))).map fun d => (([], n - 1), d)
      else if s.third ∧ b = 0x4E then
        match more with
        | c :: _ => (d.third.third? c).map fun c => (([c], 2), d)
        | [] => none
      else some ((['\x1B'], 0), { d with verbatim := true })
    | [] => none
  else if a = 0x0F ∧ s.shifts then some (([], 0), { d with shifted := false })
  else if a = 0x0E ∧ s.shifts then some (([], 0), { d with shifted := true })
  else if a = 0x0A then some ((['\n'], 0), { d with shifted := false })
  else if a < 0x20 then some (([Char.ofNat a], 0), d)
  else if 0x80 ≤ a then none
  else ((if d.shifted then d.second else d.first).piece? a rest).map (·, d)

/-- The text of bytes that switch between character sets. -/
def Scheme.read? (s : Scheme) (bytes : List UInt8) : Option (List Char) :=
  readModes s.rule .initial (bytes.map UInt8.toNat)

/-! ## Schemes -/

def iso2022Kr : Scheme := ⟨[.ksX1001], true, false, false⟩

def iso2022Jp : Scheme := ⟨[.jisX0208, .roman, .jisX0208First], false, false, true⟩

def iso2022Jp1 : Scheme := ⟨[.jisX0208, .jisX0212, .roman, .jisX0208First], false, false, true⟩

def iso2022Jp2 : Scheme :=
  ⟨[.jisX0208, .jisX0212, .ksX1001, .gb2312, .roman, .jisX0208First, .latin1, .greek], false, true,
    true⟩

def iso2022Jp2004 : Scheme :=
  ⟨[.firstPlane .of2004, .jisX0208, .secondPlane], false, false, true⟩

def iso2022Jp3 : Scheme :=
  ⟨[.firstPlane .of2000, .jisX0208, .secondPlane], false, false, true⟩

def iso2022JpExt : Scheme :=
  ⟨[.jisX0208, .jisX0212, .roman, .kana, .jisX0208First], false, false, true⟩

end RecordTemplate.Text.Charset
