/-
  RecordTemplate.Text.Encoding

  Encodings of texts as bytes, under the names by which files declare them.  Case and
  punctuation do not matter in a name.
-/

import RecordTemplate.Text.CharClass
import RecordTemplate.Text.Charset.Iso2022
import RecordTemplate.Text.Charset.Traditional
import RecordTemplate.Text.Escaped
import RecordTemplate.Text.Punycode
import RecordTemplate.Text.Utf7
import RecordTemplate.Text.Utf8

namespace RecordTemplate.Text

/-- A rule that turns bytes into a text, with its own name and others. -/
structure Encoding where
  name : String
  aliases : List String
  /-- The text of bytes; nothing if they are not in the encoding. -/
  decode? : List UInt8 → Option (List Char)

namespace Encoding

/-! ## Unicode and ASCII -/

/-- The mark at the beginning of a file in UTF-8. -/
def byteOrderMark : List UInt8 := [0xEF, 0xBB, 0xBF]

def withoutMark (bytes : List UInt8) : List UInt8 :=
  if byteOrderMark.isPrefixOf bytes then bytes.drop byteOrderMark.length else bytes

/-- UTF-8, of which a byte order mark is no part. -/
def decodeMarkedUtf8 (bytes : List UInt8) : Option (List Char) := decodeUtf8 (withoutMark bytes)

def latin1Char (b : UInt8) : Char := Char.ofNat b.toNat

/-- Latin-1, which reads all bytes. -/
def decodeLatin1 (bytes : List UInt8) : List Char := bytes.map latin1Char

def decodeAscii (bytes : List UInt8) : Option (List Char) :=
  if bytes.all (·.toNat < 0x80) then some (decodeLatin1 bytes) else none

/-! ## Encodings -/

def unicode : List Encoding := [
  ⟨"utf_8", ["cp65001", "u8", "utf", "utf8", "utf8_ucs2", "utf8_ucs4"], decodeUtf8⟩,
  ⟨"utf_8_sig", [], decodeMarkedUtf8⟩,
  ⟨"utf_7", ["u7", "unicode_1_1_utf_7", "utf7"], decodeUtf7⟩,
  ⟨"utf_16", ["u16", "utf16"], decodeUtf16 false⟩,
  ⟨"utf_16_be", ["unicodebigunmarked", "utf_16be"], decodeUtf16 true⟩,
  ⟨"utf_16_le", ["unicodelittleunmarked", "utf_16le"], decodeUtf16 false⟩,
  ⟨"punycode", [], Punycode.decode⟩,
  ⟨"raw_unicode_escape", [], decodeNumericEscaped⟩,
  ⟨"unicode_escape", [], decodeEscaped⟩]

def western : List Encoding := [
  ⟨"ascii",
    ["646", "ansi_x3.4_1968", "ansi_x3.4_1986", "ansi_x3_4_1968", "cp367", "csascii", "ibm367",
      "iso646_us", "iso_646.irv_1991", "iso_ir_6", "us", "us_ascii"], decodeAscii⟩,
  ⟨"charmap", [], some ∘ decodeLatin1⟩,
  ⟨"iso8859_1", [], some ∘ decodeLatin1⟩,
  ⟨"latin_1",
    ["8859", "cp819", "csisolatin1", "ibm819", "iso8859", "iso8859_1", "iso_8859_1",
      "iso_8859_1_1987", "iso_ir_100", "l1", "latin", "latin1"], some ∘ decodeLatin1⟩]

open Charset

def japanese : List Encoding := [
  ⟨"euc_jp", ["eucjp", "u_jis", "ujis"], readBytes eucJp⟩,
  ⟨"shift_jis", ["csshiftjis", "s_jis", "shiftjis", "sjis", "x_mac_japanese"],
    readBytes shiftJis⟩,
  ⟨"cp932", ["932", "ms932", "ms_kanji", "mskanji"], readBytes vendorShiftJis⟩,
  ⟨"euc_jis_2004", ["euc_jis2004", "eucjis2004", "jisx0213"], readBytes (eucJisX0213 .of2004)⟩,
  ⟨"euc_jisx0213", ["eucjisx0213"], readBytes (eucJisX0213 .of2000)⟩,
  ⟨"shift_jis_2004", ["s_jis_2004", "shiftjis2004", "sjis_2004"],
    readBytes (shiftJisX0213 .of2004)⟩,
  ⟨"shift_jisx0213", ["s_jisx0213", "shiftjisx0213", "sjisx0213"],
    readBytes (shiftJisX0213 .of2000)⟩,
  ⟨"iso2022_jp", ["csiso2022jp", "iso2022jp", "iso_2022_jp"], iso2022Jp.read?⟩,
  ⟨"iso2022_jp_1", ["iso2022jp_1", "iso_2022_jp_1"], iso2022Jp1.read?⟩,
  ⟨"iso2022_jp_2", ["iso2022jp_2", "iso_2022_jp_2"], iso2022Jp2.read?⟩,
  ⟨"iso2022_jp_2004", ["iso2022jp_2004", "iso_2022_jp_2004"], iso2022Jp2004.read?⟩,
  ⟨"iso2022_jp_3", ["iso2022jp_3", "iso_2022_jp_3"], iso2022Jp3.read?⟩,
  ⟨"iso2022_jp_ext", ["iso2022jp_ext", "iso_2022_jp_ext"], iso2022JpExt.read?⟩]

def korean : List Encoding := [
  ⟨"euc_kr",
    ["euckr", "korean", "ks_c_5601", "ks_c_5601_1987", "ks_x_1001", "ksc5601", "ksx1001",
      "x_mac_korean"], readBytes eucKr⟩,
  ⟨"cp949", ["949", "ms949", "uhc"], readBytes unifiedHangul⟩,
  ⟨"johab", ["cp1361", "ms1361"], readBytes johab⟩,
  ⟨"iso2022_kr", ["csiso2022kr", "iso2022kr", "iso_2022_kr"], iso2022Kr.read?⟩]

def chinese : List Encoding := [
  ⟨"gb2312",
    ["chinese", "csiso58gb231280", "euc_cn", "euccn", "eucgb2312_cn", "gb2312_1980",
      "gb2312_80", "iso_ir_58", "x_mac_simp_chinese"], readBytes gb2312⟩,
  ⟨"gbk", ["936", "cp936", "ms936"], readBytes gbk⟩,
  ⟨"gb18030", ["gb18030_2000"], readBytes gb18030⟩,
  ⟨"hz", ["hz_gb", "hz_gb_2312", "hzgb"], fun bytes =>
    readModes tilde false (bytes.map UInt8.toNat)⟩,
  ⟨"big5", ["big5_tw", "csbig5", "x_mac_trad_chinese"], readBytes big5⟩,
  ⟨"cp950", ["950", "ms950"], readBytes vendorBig5⟩,
  ⟨"big5hkscs", ["big5_hkscs", "hkscs"], readBytes hongKongBig5⟩]

/-- The encodings whose characters are single bytes. -/
def singleByte : List Encoding := singleByteSets.map fun c => ⟨c.name, c.aliases, c.read?⟩

def all : List Encoding := unicode ++ western ++ japanese ++ korean ++ chinese ++ singleByte

/-! ## Names -/

/-- A name in lower case with every run of punctuation as one underscore; points are kept. -/
def normalName (name : List Char) : List Char :=
  let mark := name.map fun c => if isLetter c ∨ isAsciiDigit c ∨ c = '.' then c.toLower else '_'
  let words := (mark.splitBy fun a b => a != '_' && b != '_').filter fun w => w != ['_']
  ['_'].intercalate words

/-- Whether an encoding has a name.  Only in the other names may points stand for
    underscores. -/
def isNamed (e : Encoding) (name : List Char) : Bool :=
  let normal := normalName name
  let pointless := normal.map fun c => if c = '.' then '_' else c
  e.name == String.ofList normal || e.aliases.contains (String.ofList normal) ||
    e.aliases.contains (String.ofList pointless)

/-- The encoding that a name stands for. -/
def ofName? (name : List Char) : Option Encoding := all.find? (·.isNamed name)

end Encoding
end RecordTemplate.Text
