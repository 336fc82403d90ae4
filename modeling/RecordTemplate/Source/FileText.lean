/-
  RecordTemplate.Source.FileText

  The text of a file: in the encoding that its XML declaration names, else in UTF-8, else in
  Latin-1, which reads every file.
-/

import RecordTemplate.Text.Encoding

namespace RecordTemplate.Source

open RecordTemplate.Text

/-! ## The declared encoding -/

/-- What follows the bytes of `piece` at the beginning of a file. -/
def afterBytes? (piece : List Char) (s : List UInt8) : Option (List UInt8) :=
  let bytes := encodeUtf8 piece
  if bytes.isPrefixOf s then some (s.drop bytes.length) else none

def isNameByte (b : UInt8) : Bool :=
  let c := Encoding.latin1Char b
  c.isAlphanum || c == '.' || c == '_' || c == '-'

def isQuoteByte (b : UInt8) : Bool := b == 0x22 || b == 0x27

/-- An encoding in quotes after `encoding=`. -/
def encodingAttribute? (s : List UInt8) : Option (List Char) :=
  match afterBytes? "encoding=".toList s with
  | some (q :: rest) =>
    match rest.takeWhile isNameByte, rest.dropWhile isNameByte with
    | b :: name, closing :: _ =>
      if isQuoteByte q ∧ isQuoteByte closing then some ((b :: name).map Encoding.latin1Char)
      else none
    | _, _ => none
  | _ => none

/-- The first encoding named before the declaration ends. -/
def namedEncoding? : List UInt8 → Option (List Char)
  | [] => none
  | b :: s =>
    match encodingAttribute? (b :: s) with
    | some name => some name
    -- the declaration ends at the first `>`
    | none => if b = 0x3E then none else namedEncoding? s

/-- The name of the encoding in the XML declaration of a file. -/
def declaredEncoding? (bytes : List UInt8) : Option (List Char) :=
  let s := (Encoding.withoutMark bytes).dropWhile fun b => isAsciiSpace (Encoding.latin1Char b)
  (afterBytes? "<?xml".toList s).bind namedEncoding?

/-! ## Decoding -/

/-- The text of a file. -/
def decodeText (bytes : List UInt8) : List Char :=
  let declared := ((declaredEncoding? bytes).bind Encoding.ofName?).bind (·.decode? bytes)
  match declared with
  | some s => s
  | none => (Encoding.decodeMarkedUtf8 bytes).getD (Encoding.decodeLatin1 bytes)

end RecordTemplate.Source
