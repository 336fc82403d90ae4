/-
  RecordTemplate.Text.Charset.SingleByte

  Character sets in which every byte is a character.
-/

namespace RecordTemplate.Text.Charset

/-- A character set of single bytes, with its own name and others. -/
structure SingleByte where
  name : String
  aliases : List String
  /-- The characters of the last bytes; the bytes before them are ASCII. -/
  chars : String

/-- The text of bytes, of which each stands for the character of the list at its place. -/
def readPlaces (chars : Array Char) (bytes : List UInt8) : Option (List Char) :=
  let first := 0x100 - chars.size
  bytes.mapM fun b =>
    if b.toNat < first then some (Char.ofNat b.toNat)
    else (chars[b.toNat - first]?).filter (· ≠ '\uFFFE')

/-- The text of bytes in a character set. -/
def SingleByte.read? (c : SingleByte) (bytes : List UInt8) : Option (List Char) :=
  readPlaces c.chars.toList.toArray bytes

end RecordTemplate.Text.Charset
