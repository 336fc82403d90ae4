/-
  RecordTemplate.Value.Reading

  Values read as numbers and as moments.  A strict reading takes numbers and texts that are
  one plain number; the lenient one also takes currency marks and both conventions for
  separators.  Integers are read from numbers of any type and from texts.
-/

import RecordTemplate.Calendar.FreeForm
import RecordTemplate.Calendar.IsoReader
import RecordTemplate.Calendar.Timestamp
import RecordTemplate.Number.Integer
import RecordTemplate.Number.Reader
import RecordTemplate.Value.Text

namespace RecordTemplate

open RecordTemplate.Calendar RecordTemplate.Number RecordTemplate.Text

namespace Value

/-! ## Numbers -/

/-- The double precision number nearest to a number; nothing for other values. -/
def toBinary64? : Value → Option (Except Failure Binary64)
  | int n =>
    match Binary64.ofInt? n with
    | some x => some (.ok x)
    | none => some (.error .integerTooLarge)
  | float x => some (.ok x)
  | decimal d => some d.toBinary64
  | _ => none

/-- The number of a value that is a number or a text in the form of one. -/
def strictNumber? (v : Value) : Except Failure (Option Binary64) :=
  match v.toBinary64?, v with
  | some x, _ => x.map some
  | none, text s =>
    if isNumeric s.toList then
      match readFloat? s.toList with
      | some x => .ok (some x)
      | none => .error (.notAFloat (quotedString s))
    else .ok none
  | none, _ => .ok none

/-- Bytes as a text in ASCII without the white space around it. -/
def plainBytes (bs : List UInt8) : List Char :=
  trimBy isAsciiSpace (bs.map fun b => Char.ofNat b.toNat)

/-- The double precision number that a number, a truth value, a text or bytes stand for. -/
def asBinary64 (v : Value) : Except Failure Binary64 :=
  match v.toBinary64?, v with
  | some x, _ => x
  | none, bool b => .ok (.ofRatio false (if b then 1 else 0) 1)
  | none, text s =>
    match readFloat? s.toList with
    | some x => .ok x
    | none => .error (.notAFloat (quotedString s))
  | none, bytes bs =>
    match readPlainFloat? (plainBytes bs) with
    | some x => .ok x
    | none => .error (.notAFloat (bytesLiteral bs))
  | none, v => .error (.noFloat v.typeName)

/-- The integer written in bytes, which are read as ASCII.  Messages show the first bytes. -/
def integerOfBytes (bs : List UInt8) : Except Failure Int :=
  readPlainInteger (bytesLiteral (bs.take 200)).toList (plainBytes bs)

/-- The integer of a number, or of a text or bytes that are a whole number. -/
def toInteger (v : Value) : Except Failure Int :=
  match v with
  | int n => .ok n
  | bool b => .ok (if b then 1 else 0)
  | float x => x.toInteger
  | decimal d => d.toInteger
  | text s => readInteger s.toList
  | bytes bs => integerOfBytes bs
  | v => .error (.noInteger v.typeName)

/-- Characters that are left out of a number: currency marks and white space. -/
def isNumberMark (c : Char) : Bool :=
  ['R', '$', '€', '£', '¥', '₹', 'z', 'ł'].contains c || isSpace c

/-- Whether the last comma of a text stands after its last point. -/
def commaIsLast (s : List Char) : Bool :=
  (s.reverse.find? fun c => c == ',' || c == '.') == some ','

/-- A number with a point for its decimal separator and no other separators.  Of a comma and
    a point the last one is the decimal separator; a single comma is one if at most two
    characters follow it. -/
def plainNumber (s : List Char) : List Char :=
  let s := s.filter fun c => !isNumberMark c
  let commas := replaceAll [','] ['.'] s
  let noCommas := s.filter (· ≠ ',')
  -- with both marks the last one is the decimal separator
  if s.contains ',' && s.contains '.' then
    if commaIsLast s then replaceAll [','] ['.'] (s.filter (· ≠ '.')) else noCommas
  else if s.contains ',' then
    -- a lone comma before one or two digits is a decimal comma
    match splitOn [','] s with
    | [_, fraction] => if fraction.length ≤ 2 then commas else noCommas
    | _ => noCommas
  else s

/-- The number of a value as a reader would understand it. -/
def readNumber (v : Value) : Except Failure Binary64 :=
  match v with
  | null | bool _ => .error (.notANumber v.literal)
  | v =>
    match v.toBinary64? with
    | some x => x
    | none =>
      let s := trim v.render.toList
      if s = [] then .error .emptyNumber
      else match readFloat? (plainNumber s) with
        | some x => .ok x
        | none => .error (.notANumber ("'" ++ v.display ++ "'"))

/-! ## Moments -/

/-- The moment written in a text: the ISO form, in which `Z` is UTC, or else free form. -/
def momentOfText (today : Date) (s : List Char) : Except FreeForm.Fault DateTime :=
  match DateTime.readIso? (replaceAll ['Z'] ['+', '0', '0', ':', '0', '0'] s) with
  | some t => .ok t
  | none => DateTime.readFreeForm today s

/-- The moment that a value stands for. -/
def readMoment (today : Date) (v : Value) : Except Failure DateTime :=
  match v with
  | dateTime t => .ok t
  | date d => .ok ⟨d, .midnight, none⟩
  | null | text "" => .error .emptyDate
  | v => do
    match ← v.strictNumber? with
    | some x => DateTime.ofTimestamp x
    | none =>
      let s := trim v.render.toList
      if s = [] then .error .blankDate
      else match momentOfText today s with
        | .ok t => return t
        | .error .unreadable => .error (.notADate v.display)
        | .error .divisionImpossible => .error .divisionImpossible

end Value
end RecordTemplate
