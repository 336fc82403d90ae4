/-
  RecordTemplate.Text.CharClass

  Character classes.  White space is a short list of code points; letters, numerals and
  printable characters come from tables.  Inside ASCII every class is a comparison, so the
  tables are consulted for other characters only.
-/

import RecordTemplate.Text.LetterTable
import RecordTemplate.Text.PrintableTable

namespace RecordTemplate.Text

/-- Whether a code point lies in one of the closed intervals of a table. -/
def inTable (table : List (Nat × Nat)) (n : Nat) : Bool :=
  table.any fun r => r.1 ≤ n && n ≤ r.2

/-! ## White space -/

/-- The white space code points. -/
def spaceCodes : List Nat :=
  [0x9, 0xA, 0xB, 0xC, 0xD, 0x1C, 0x1D, 0x1E, 0x1F, 0x20, 0x85, 0xA0, 0x1680, 0x2000, 0x2001,
    0x2002, 0x2003, 0x2004, 0x2005, 0x2006, 0x2007, 0x2008, 0x2009, 0x200A, 0x2028, 0x2029,
    0x202F, 0x205F, 0x3000]

/-- White space: what is skipped around tags, operators and arguments. -/
def isSpace (c : Char) : Bool := spaceCodes.contains c.toNat

/-- The white space that may surround a number written in ASCII. -/
def isAsciiSpace (c : Char) : Bool :=
  c == ' ' || (0x9 ≤ c.toNat && c.toNat ≤ 0xD)

/-! ## Letters and digits -/

def isAscii (c : Char) : Bool := c.toNat < 0x80

def isAsciiDigit (c : Char) : Bool := '0' ≤ c && c ≤ '9'

/-- The value of an ASCII digit. -/
def asciiDigit? (c : Char) : Option Nat :=
  if isAsciiDigit c then some (c.toNat - 0x30) else none

/-- Letters of any script. -/
def isLetter (c : Char) : Bool :=
  if isAscii c then ('a' ≤ c && c ≤ 'z') || ('A' ≤ c && c ≤ 'Z') else inTable letterTable c.toNat

/-- The value of a decimal digit of any script. -/
def decimalDigit? (c : Char) : Option Nat :=
  if isAscii c then asciiDigit? c
  else (decimalTable.find? fun r => r.1 ≤ c.toNat && c.toNat ≤ r.2).map fun r =>
    (c.toNat - r.1) % 10

/-- Decimal digits of any script. -/
def isDecimal (c : Char) : Bool := (decimalDigit? c).isSome

/-- Decimal digits and digits without a place value. -/
def isDigit (c : Char) : Bool := isDecimal c || inTable positionalTable c.toNat

/-- Word characters: letters, numerals and the underscore. -/
def isWord (c : Char) : Bool :=
  if isAscii c then isLetter c || isAsciiDigit c || c == '_'
  else inTable letterTable c.toNat || inTable numeralTable c.toNat

/-- Characters that a filter name is made of. -/
def isNameChar (c : Char) : Bool :=
  isAscii c && isWord c

/-! ## Printable characters -/

/-- Characters that a quoted literal shows as themselves. -/
def isPrintable (c : Char) : Bool :=
  if isAscii c then 0x20 ≤ c.toNat && c.toNat < 0x7F else !inTable unprintableTable c.toNat

end RecordTemplate.Text
