/-
  RecordTemplate.Number.Reader

  Numbers written in text.  Digits of any script count, an underscore may stand between two
  digits, and white space may surround the number.
-/

import RecordTemplate.Number.Decimal
import RecordTemplate.Text.Search

namespace RecordTemplate.Number

open RecordTemplate.Text

/-! ## Preparing a text -/

/-- A decimal digit of any script as an ASCII digit; other characters as they are. -/
def asciiDigitOf (c : Char) : Char :=
  match decimalDigit? c with
  | some d => Char.ofNat (0x30 + d)
  | none => c

/-- The white space that may surround a number: in ASCII only the usual characters, outside
    ASCII all white space. -/
def isNumberSpace (c : Char) : Bool := isAsciiSpace c || (!isAscii c && isSpace c)

/-- A text without the white space around its number, all digits in ASCII. -/
def trimNumber (s : List Char) : List Char := (trimBy isNumberSpace s).map asciiDigitOf

/-- The text without its underscores, each of which must stand between two digits; `last`
    is the character before the text. -/
def dropUnderscores? (last : Char) : List Char → Option (List Char)
  | [] => if last = '_' then none else some []
  | c :: s =>
    if c = '_' then
      if isAsciiDigit last then dropUnderscores? c s else none
    else if last = '_' ∧ ¬isAsciiDigit c then none
    else (dropUnderscores? c s).map (c :: ·)

/-! ## Numbers -/

/-- The number of a text in ASCII without white space around it. -/
def readPlainFloat? (s : List Char) : Option Binary64 :=
  match dropUnderscores? ' ' s with
  | none => none
  | some s =>
    match Decimal.readFinite? s with
    | some (negative, c, e) => some (.ofDecimal negative c e)
    | none =>
      let (negative, s) := Decimal.takeSign s
      let t := s.map Char.toLower
      if t = "inf".toList ∨ t = "infinity".toList then some (.infinite negative)
      else if t = "nan".toList then some .nan
      else none

/-- The number of a text, as it is written in a record or an argument. -/
def readFloat? (s : List Char) : Option Binary64 := readPlainFloat? (trimNumber s)

/-- The most digits that the text of a whole number may have. -/
def maxIntegerDigits : Nat := 4300

/-- The whole number of a text in ASCII without white space around it; `shown` is the text as
    messages show it.  The digits are counted before what follows them is looked at. -/
def readPlainInteger (shown s : List Char) : Except Failure Int :=
  let (negative, s) := Decimal.takeSign s
  let (run, rest) := s.span fun c => isAsciiDigit c || c == '_'
  match dropUnderscores? ' ' run with
  | none => .error (.notAnInteger shown)
  | some ds =>
    if maxIntegerDigits < ds.length then .error (.integerTooLong maxIntegerDigits ds.length)
    else if ds = [] ∨ rest ≠ [] then .error (.notAnInteger shown)
    else .ok (if negative then -(digitsValue ds : Int) else digitsValue ds)

/-- The whole number of a text. -/
def readInteger (s : List Char) : Except Failure Int :=
  readPlainInteger (quoted s) (trimNumber s)

/-! ## Numbers at the beginning of a text -/

/-- An exponent part at the beginning of a text, and the rest; nothing is taken if there is
    none. -/
def spanExponent (s : List Char) : List Char × List Char :=
  match s with
  | c :: t =>
    if c = 'e' ∨ c = 'E' then
      let (sign, u) := match t with
        | '+' :: u => (['+'], u)
        | '-' :: u => (['-'], u)
        | u => ([], u)
      let (ds, rest) := spanDigits u
      if ds = [] then ([], s) else (c :: sign ++ ds, rest)
    else ([], s)
  | [] => ([], [])

/-- The digits before the exponent at the beginning of a text, and the rest: digits with an
    optional point among or after them, or a point and digits. -/
def spanMantissa? (s : List Char) : Option (List Char × List Char) :=
  match spanDigits s with
  | ([], '.' :: t) =>
    match spanDigits t with
    | ([], _) => none
    | (ds, rest) => some ('.' :: ds, rest)
  | ([], _) => none
  | (whole, '.' :: t) =>
    let (ds, rest) := spanDigits t
    some (whole ++ '.' :: ds, rest)
  | (whole, rest) => some (whole, rest)

/-- The number at the beginning of a text together with the white space before it, and the
    rest. -/
def spanNumber? (s : List Char) : Option (List Char × List Char) :=
  let (blanks, s) := s.span isSpace
  let (sign, s) := match s with
    | '+' :: t => (['+'], t)
    | '-' :: t => (['-'], t)
    | t => ([], t)
  (spanMantissa? s).map fun (mantissa, rest) =>
    let (exponent, rest) := spanExponent rest
    (blanks ++ sign ++ mantissa ++ exponent, rest)

/-- Whether a text is one number and white space. -/
def isNumeric (s : List Char) : Bool :=
  match spanNumber? s with
  | some (_, rest) => rest.all isSpace
  | none => false

/-- The number at the beginning of a text, zero if there is none. -/
def leadingNumber (s : List Char) : Binary64 :=
  match spanNumber? s with
  | some (number, _) => (readFloat? number).getD (.zero false)
  | none => .zero false

end RecordTemplate.Number
