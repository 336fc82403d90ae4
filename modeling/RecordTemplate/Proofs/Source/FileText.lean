/-
  RecordTemplate.Proofs.Source.FileText

  Files in UTF-8.  The declaration at the beginning of a file is looked for among its bytes, but it
  is found there exactly if it stands in the text (`Declares`, `declaredEncoding?_eq_some_iff`), as
  all bytes of other characters are beyond those that a declaration is made of.

  A file in UTF-8 is read as its text if it names no encoding or UTF-8.  If it begins with a byte
  order mark, the mark is dropped exactly if the file names no encoding: where it names UTF-8, the
  mark is read as the first character of the text (`decodeText_encodeUtf8`).
-/

import Mathlib.Data.List.TakeWhile
import Mathlib.Tactic.Common
import RecordTemplate.Proofs.Text.Search
import RecordTemplate.Proofs.Text.Utf8
import RecordTemplate.Source.Attachment

namespace RecordTemplate.Source

open RecordTemplate.Text

variable {s name piece : List Char} {bytes rest : List UInt8} {b : UInt8}

/-! ## Declarations in a text -/

/-- A character of the name of an encoding. -/
def IsEncodingChar (c : Char) : Prop := c.isAlphanum = true ∨ c = '.' ∨ c = '_' ∨ c = '-'

def IsQuoteChar (c : Char) : Prop := c = '"' ∨ c = '\''

/-- The text begins with an attribute that names an encoding in quotes. -/
def NamesAt (s name : List Char) : Prop :=
  ∃ opening closing rest, s = "encoding=".toList ++ opening :: (name ++ closing :: rest) ∧
    IsQuoteChar opening ∧ IsQuoteChar closing ∧ name ≠ [] ∧ ∀ c ∈ name, IsEncodingChar c

/-- The first such attribute of a text, and no `>` stands before it. -/
inductive FirstNamed : List Char → List Char → Prop where
  | here {s name : List Char} (h : NamesAt s name) : FirstNamed s name
  | later {c : Char} {s name : List Char} (hc : c ≠ '>') (hno : ∀ n, ¬ NamesAt (c :: s) n)
      (h : FirstNamed s name) : FirstNamed (c :: s) name

/-- A text begins, behind white space, with an XML declaration that names an encoding. -/
def Declares (s name : List Char) : Prop :=
  ∃ space rest, (∀ c ∈ space, isAsciiSpace c = true) ∧ s = space ++ ("<?xml".toList ++ rest) ∧
    FirstNamed rest name

/-! ## Bytes of a declaration -/

theorem isNameByte_iff : isNameByte b = true ↔ IsEncodingChar (Encoding.latin1Char b) := by
  unfold isNameByte IsEncodingChar
  simp only [Bool.or_eq_true, beq_iff_eq, or_assoc]

theorem IsEncodingChar.lt {c : Char} (h : IsEncodingChar c) : c.toNat < 0x80 := by
  rcases h with h | rfl | rfl | rfl
  · have hclasses : c.isAlphanum = (decide (c.val ≥ 'A'.val ∧ c.val ≤ 'Z'.val) ||
        c.val ≥ 'a'.val && c.val ≤ 'z'.val || c.val ≥ '0'.val && c.val ≤ '9'.val) := rfl
    rw [hclasses] at h
    simp only [Bool.or_eq_true, Bool.and_eq_true, decide_eq_true_eq] at h
    rcases h with (⟨-, h⟩ | ⟨-, h⟩) | ⟨-, h⟩
    · exact Nat.lt_of_le_of_lt (UInt32.le_iff_toNat_le.1 h) (by decide)
    · exact Nat.lt_of_le_of_lt (UInt32.le_iff_toNat_le.1 h) (by decide)
    · exact Nat.lt_of_le_of_lt (UInt32.le_iff_toNat_le.1 h) (by decide)
  · decide
  · decide
  · decide

theorem isQuoteByte_iff : isQuoteByte b = true ↔ IsQuoteChar (Encoding.latin1Char b) := by
  have hnat := toNat_latin1Char b
  have hchar : ∀ c : Char, Encoding.latin1Char b = c ↔ b.toNat = c.toNat := by
    intro c
    rw [← hnat]
    exact ⟨congrArg Char.toNat, fun h => Char.toNat_inj.1 h⟩
  unfold isQuoteByte IsQuoteChar
  rw [hchar, hchar, Bool.or_eq_true, beq_iff_eq, beq_iff_eq, ← UInt8.toNat_inj, ← UInt8.toNat_inj]
  rfl

theorem IsQuoteChar.lt {c : Char} (h : IsQuoteChar c) : c.toNat < 0x80 := by
  rcases h with rfl | rfl <;> decide

/-- A name ends before a quote. -/
theorem isNameByte_of_isQuoteByte (h : isQuoteByte b = true) : isNameByte b = false := by
  unfold isQuoteByte at h
  rw [Bool.or_eq_true, beq_iff_eq, beq_iff_eq] at h
  rcases h with rfl | rfl <;> decide

theorem isAsciiSpace_lt {c : Char} (h : isAsciiSpace c = true) : c.toNat < 0x80 := by
  unfold isAsciiSpace at h
  rw [Bool.or_eq_true, beq_iff_eq, Bool.and_eq_true, decide_eq_true_eq, decide_eq_true_eq] at h
  rcases h with rfl | ⟨-, h⟩
  · decide
  · omega

/-! ## The first attribute -/

theorem eq_of_afterBytes? (h : afterBytes? piece bytes = some rest) :
    bytes = encodeUtf8 piece ++ rest := by
  unfold afterBytes? at h
  dsimp only at h
  split at h
  · next hprefix =>
    obtain ⟨behind, hbehind⟩ := List.isPrefixOf_iff_prefix.1 hprefix
    rw [← hbehind, List.drop_left] at h
    rw [← hbehind, Option.some.inj h]
  · cases h

theorem afterBytes?_append (piece : List Char) (rest : List UInt8) :
    afterBytes? piece (encodeUtf8 piece ++ rest) = some rest := by
  unfold afterBytes?
  dsimp only
  rw [if_pos (List.isPrefixOf_iff_prefix.2 (List.prefix_append _ _)), List.drop_left]

/-- An attribute among bytes, with its parts. -/
theorem encodingAttribute?_eq_some_iff :
    encodingAttribute? bytes = some name ↔ ∃ opening named closing rest,
      bytes = encodeUtf8 "encoding=".toList ++ opening :: (named ++ closing :: rest) ∧
      isQuoteByte opening = true ∧ isQuoteByte closing = true ∧ named ≠ [] ∧
      (∀ b ∈ named, isNameByte b = true) ∧ name = Encoding.decodeLatin1 named := by
  constructor
  · intro h
    unfold encodingAttribute? at h
    split at h
    · next opening behind hafter =>
      split at h
      · next a named closing rest htake hdrop =>
        split at h
        · next hquotes =>
          obtain rfl := Option.some.inj h
          have hspan := List.takeWhile_append_dropWhile (p := isNameByte) (l := behind)
          rw [htake, hdrop] at hspan
          refine ⟨opening, a :: named, closing, rest, ?_, hquotes.1, hquotes.2,
            List.cons_ne_nil _ _, ?_, rfl⟩
          · rw [hspan]
            exact eq_of_afterBytes? hafter
          · intro b hb
            rw [← htake] at hb
            exact List.mem_takeWhile_imp hb
        · cases h
      · cases h
    · cases h
  · rintro ⟨opening, named, closing, rest, rfl, hopening, hclosing, hne, hnamed, rfl⟩
    obtain ⟨a, named, rfl⟩ := List.exists_cons_of_ne_nil hne
    -- a quote ends the name
    have hend : ∀ b, (closing :: rest).head? = some b → isNameByte b = false := by
      intro b hb
      obtain rfl : closing = b := Option.some.inj hb
      exact isNameByte_of_isQuoteByte hclosing
    have htake := takeWhile_span hnamed hend
    have hdrop := dropWhile_span hnamed hend
    rw [encodingAttribute?, afterBytes?_append]
    simp only [htake, hdrop, hopening, hclosing, and_self, if_true]
    rfl

/-- An attribute is found among the bytes of a text exactly if the text begins with it. -/
theorem encodingAttribute?_encodeUtf8 :
    encodingAttribute? (encodeUtf8 s) = some name ↔ NamesAt s name := by
  rw [encodingAttribute?_eq_some_iff]
  constructor
  · rintro ⟨opening, named, closing, rest, hbytes, hopening, hclosing, hne, hnamed, rfl⟩
    obtain ⟨t, rfl, ht⟩ := encodeUtf8_eq_append hbytes
    -- quotes and name are bytes of ASCII, so they stand in the text as they are
    have hascii : ∀ b ∈ opening :: (named ++ [closing]), b.toNat < 0x80 := by
      intro b hb
      rw [← toNat_latin1Char]
      rcases List.mem_cons.1 hb with rfl | hb
      · exact (isQuoteByte_iff.1 hopening).lt
      · rcases List.mem_append.1 hb with hb | hb
        · exact (isNameByte_iff.1 (hnamed b hb)).lt
        · obtain rfl := List.mem_singleton.1 hb
          exact (isQuoteByte_iff.1 hclosing).lt
    have happend : encodeUtf8 t = opening :: (named ++ [closing]) ++ rest := by
      rw [← ht, List.cons_append, List.append_assoc, List.singleton_append]
    obtain ⟨u, rfl, -⟩ := encodeUtf8_eq_append_of_lt happend hascii
    refine ⟨_, _, u, ?_, isQuoteByte_iff.1 hopening, isQuoteByte_iff.1 hclosing,
      mt List.map_eq_nil_iff.1 hne, ?_⟩
    · simp [Encoding.decodeLatin1]
    · intro c hc
      obtain ⟨b, hb, rfl⟩ := List.mem_map.1 hc
      exact isNameByte_iff.1 (hnamed b hb)
  · rintro ⟨opening, closing, rest, rfl, hopening, hclosing, hne, hname⟩
    have hread := decodeLatin1_encodeUtf8 fun c hc => (hname c hc).lt
    have hlatin : ∀ {c : Char}, IsQuoteChar c →
        isQuoteByte (UInt8.ofNat c.toNat) = true := by
      intro c hc
      rw [isQuoteByte_iff, latin1Char_ofNat (Nat.lt_trans hc.lt (by decide))]
      exact hc
    refine ⟨UInt8.ofNat opening.toNat, encodeUtf8 name, UInt8.ofNat closing.toNat,
      encodeUtf8 rest, ?_, hlatin hopening, hlatin hclosing, ?_, ?_, hread.symm⟩
    · rw [encodeUtf8_append, encodeUtf8_cons, encodeUtf8_append, encodeUtf8_cons,
        encodeChar_of_lt hopening.lt, encodeChar_of_lt hclosing.lt]
      rfl
    · intro hnil
      rw [hnil] at hread
      exact hne hread.symm
    · intro b hb
      refine isNameByte_iff.2 (hname _ ?_)
      rw [← hread]
      exact List.mem_map_of_mem hb

/-! ## Looking for a declaration -/

theorem encodingAttribute?_cons_of_ne (hb : b ≠ 0x65) :
    encodingAttribute? (b :: bytes) = none := by
  have hno : ∀ name, encodingAttribute? (b :: bytes) ≠ some name := by
    intro name h
    obtain ⟨_, _, _, _, hbytes, -⟩ := encodingAttribute?_eq_some_iff.1 h
    have hpiece : encodeUtf8 "encoding=".toList = 0x65 :: encodeUtf8 "ncoding=".toList := by decide
    rw [hpiece, List.cons_append] at hbytes
    exact hb (List.cons.inj hbytes).1
  exact Option.eq_none_iff_forall_ne_some.2 hno

theorem namedEncoding?_of_attribute (h : encodingAttribute? bytes = some name) :
    namedEncoding? bytes = some name := by
  cases bytes with
  | nil =>
    have hnil : encodingAttribute? [] = none := by decide
    rw [hnil] at h
    cases h
  | cons b bytes => rw [namedEncoding?, h]

/-- Bytes outside ASCII are skipped. -/
theorem namedEncoding?_append_of_le (h : ∀ b ∈ bytes, 0x80 ≤ b.toNat) :
    namedEncoding? (bytes ++ rest) = namedEncoding? rest := by
  induction bytes with
  | nil => rfl
  | cons b bytes ih =>
    have hb : 0x80 ≤ b.toNat := h b List.mem_cons_self
    have hne : ∀ a : UInt8, a.toNat < 0x80 → b ≠ a := by
      rintro a ha rfl
      omega
    rw [List.cons_append, namedEncoding?, encodingAttribute?_cons_of_ne (hne _ (by decide))]
    dsimp only
    rw [if_neg (hne _ (by decide)), ih fun a ha => h a (List.mem_cons_of_mem _ ha)]

/-- Where no attribute begins, the search goes on behind the character, up to the first `>`. -/
theorem namedEncoding?_encodeUtf8_cons {c : Char} (hno : ∀ n, ¬ NamesAt (c :: s) n) :
    namedEncoding? (encodeUtf8 (c :: s)) =
      if c = '>' then none else namedEncoding? (encodeUtf8 s) := by
  have hnone : encodingAttribute? (encodeUtf8 (c :: s)) = none :=
    Option.eq_none_iff_forall_ne_some.2 fun n h => hno n (encodingAttribute?_encodeUtf8.1 h)
  by_cases hc : c.toNat < 0x80
  · have hbytes : encodeUtf8 (c :: s) = UInt8.ofNat c.toNat :: encodeUtf8 s := by
      rw [encodeUtf8_cons, encodeChar_of_lt hc, List.singleton_append]
    have hclose : UInt8.ofNat c.toNat = 0x3E ↔ c = '>' := by
      have hnat : (0x3E : UInt8).toNat = '>'.toNat := by decide
      rw [← UInt8.toNat_inj, toNat_ofNat_byte (by omega), hnat]
      exact Char.toNat_inj
    rw [hbytes] at hnone
    rw [hbytes, namedEncoding?, hnone]
    simp only [hclose]
  · have hclose : c ≠ '>' := by
      rintro rfl
      exact hc (by decide)
    rw [encodeUtf8_cons, if_neg hclose]
    exact namedEncoding?_append_of_le fun b hb => le_of_mem_encodeChar (by omega) hb

theorem namedEncoding?_encodeUtf8 :
    namedEncoding? (encodeUtf8 s) = some name ↔ FirstNamed s name := by
  induction s with
  | nil =>
    have hno : namedEncoding? (encodeUtf8 []) = none := rfl
    rw [hno]
    refine iff_of_false (by simp) ?_
    intro h
    cases h with
    | here h =>
      obtain ⟨_, _, _, h, -⟩ := h
      cases h
  | cons c s ih =>
    by_cases hat : ∃ n, NamesAt (c :: s) n
    · obtain ⟨n, hn⟩ := hat
      have hfound := encodingAttribute?_encodeUtf8.2 hn
      rw [namedEncoding?_of_attribute hfound]
      constructor
      · intro h
        obtain rfl := Option.some.inj h
        exact .here hn
      · intro h
        cases h with
        | here h => rw [← hfound, encodingAttribute?_encodeUtf8.2 h]
        | later _ hno _ => exact absurd hn (hno n)
    · have hno : ∀ n, ¬ NamesAt (c :: s) n := fun n hn => hat ⟨n, hn⟩
      rw [namedEncoding?_encodeUtf8_cons hno]
      constructor
      · intro h
        by_cases hc : c = '>'
        · rw [if_pos hc] at h
          cases h
        · rw [if_neg hc] at h
          exact .later hc hno (ih.1 h)
      · intro h
        cases h with
        | here h => exact absurd h (hno _)
        | later hc _ h =>
          rw [if_neg hc]
          exact ih.2 h

/-- The declaration of a file in UTF-8, with or without a mark before it, is that of its text. -/
theorem declaredEncoding?_eq_some_iff (h : Encoding.withoutMark bytes = encodeUtf8 s) :
    declaredEncoding? bytes = some name ↔ Declares s name := by
  unfold declaredEncoding?
  dsimp only
  rw [h, Option.bind_eq_some_iff]
  constructor
  · rintro ⟨behind, hbehind, hnamed⟩
    have hspan := List.takeWhile_append_dropWhile
      (p := fun b => isAsciiSpace (Encoding.latin1Char b)) (l := encodeUtf8 s)
    have hspace : ∀ b ∈ (encodeUtf8 s).takeWhile fun b => isAsciiSpace (Encoding.latin1Char b),
        isAsciiSpace (Encoding.latin1Char b) = true := by
      intro b hb
      exact List.mem_takeWhile_imp (p := fun b => isAsciiSpace (Encoding.latin1Char b)) hb
    have hascii : ∀ b ∈ (encodeUtf8 s).takeWhile fun b => isAsciiSpace (Encoding.latin1Char b),
        b.toNat < 0x80 := by
      intro b hb
      rw [← toNat_latin1Char]
      exact isAsciiSpace_lt (hspace b hb)
    obtain ⟨t, hs, ht⟩ := encodeUtf8_eq_append_of_lt hspan.symm hascii
    rw [ht] at hbehind
    obtain ⟨u, rfl, rfl⟩ := encodeUtf8_eq_append (eq_of_afterBytes? hbehind)
    refine ⟨_, u, ?_, hs, namedEncoding?_encodeUtf8.1 hnamed⟩
    intro c hc
    obtain ⟨b, hb, rfl⟩ := List.mem_map.1 hc
    exact hspace b hb
  · rintro ⟨space, behind, hspace, rfl, hnamed⟩
    have hread := decodeLatin1_encodeUtf8 fun c hc => isAsciiSpace_lt (hspace c hc)
    have hbytes : ∀ b ∈ encodeUtf8 space, isAsciiSpace (Encoding.latin1Char b) = true := by
      intro b hb
      refine hspace _ ?_
      rw [← hread]
      exact List.mem_map_of_mem hb
    have hend : ∀ b, (encodeUtf8 ("<?xml".toList ++ behind)).head? = some b →
        isAsciiSpace (Encoding.latin1Char b) = false := by
      intro b hb
      have hpiece : encodeUtf8 "<?xml".toList = 0x3C :: encodeUtf8 "?xml".toList := by decide
      rw [encodeUtf8_append, hpiece] at hb
      obtain rfl : 0x3C = b := Option.some.inj hb
      decide
    rw [encodeUtf8_append, dropWhile_span hbytes hend, encodeUtf8_append, afterBytes?_append]
    exact ⟨_, rfl, namedEncoding?_encodeUtf8.2 hnamed⟩

/-! ## The names of UTF-8 -/

/-- The case of letters does not matter in the name of an encoding. -/
theorem normalName_toLower (name : List Char) :
    Encoding.normalName (name.map Char.toLower) = Encoding.normalName name := by
  have hcapital : ∀ n : Fin 26, ∀ c, c = Char.ofNat (0x41 + n) →
      (if isLetter c.toLower ∨ isAsciiDigit c.toLower ∨ c.toLower = '.' then c.toLower.toLower
        else '_') = if isLetter c ∨ isAsciiDigit c ∨ c = '.' then c.toLower else '_' := by
    rintro n c rfl
    revert n
    decide
  have hchar : ∀ c : Char, (if isLetter c.toLower ∨ isAsciiDigit c.toLower ∨ c.toLower = '.'
      then c.toLower.toLower else '_') =
        if isLetter c ∨ isAsciiDigit c ∨ c = '.' then c.toLower else '_' := by
    intro c
    by_cases hc : 0x41 ≤ c.toNat ∧ c.toNat ≤ 0x5A
    · refine hcapital ⟨c.toNat - 0x41, by omega⟩ c ?_
      show c = Char.ofNat (0x41 + (c.toNat - 0x41))
      rw [Nat.add_sub_cancel' hc.1, Char.ofNat_toNat]
    · have hsame : c.toLower = c := by
        unfold Char.toLower
        refine dif_neg fun h => hc ?_
        exact ⟨UInt32.le_iff_toNat_le.1 h.1, UInt32.le_iff_toNat_le.1 h.2⟩
      rw [hsame, hsame]
  unfold Encoding.normalName
  rw [List.map_map]
  simp only [Function.comp_def, hchar]

/-- In any case of its letters, UTF-8 is the name of the rule that reads the mark as a
    character. -/
theorem ofName?_utf8 (h : name.map Char.toLower = "utf-8".toList) :
    ∃ e, Encoding.ofName? name = some e ∧ e.decode? = decodeUtf8 := by
  have hname : Encoding.normalName name = "utf_8".toList := by
    rw [← normalName_toLower, h]
    decide
  obtain ⟨e, others, hall, hname', hdecode⟩ : ∃ e others, Encoding.all = e :: others ∧
      e.name = "utf_8" ∧ e.decode? = decodeUtf8 := ⟨_, _, rfl, rfl, rfl⟩
  have hnamed : e.isNamed name = true := by
    unfold Encoding.isNamed
    dsimp only
    rw [hname, hname']
    rfl
  refine ⟨e, ?_, hdecode⟩
  rw [Encoding.ofName?, hall]
  exact List.find?_cons_of_pos (p := fun e : Encoding => e.isNamed name) hnamed

/-! ## Reading files in UTF-8 -/

/-- A text declares one encoding at most: that of its bytes. -/
theorem declares_iff (h : declaredEncoding? (encodeUtf8 s) = some piece)
    (hmark : s.head? ≠ some '\uFEFF') : Declares s name ↔ piece = name := by
  rw [← declaredEncoding?_eq_some_iff (withoutMark_encodeUtf8 hmark), h, Option.some.injEq]

/-- A file that names no encoding is read as UTF-8, and a mark is no part of it. -/
theorem decodeText_of_not_declares (h : Encoding.withoutMark bytes = encodeUtf8 s)
    (hno : ¬ ∃ name, Declares s name) : decodeText bytes = s := by
  have hdeclared : declaredEncoding? bytes = none :=
    Option.eq_none_iff_forall_ne_some.2 fun name hname =>
      hno ⟨name, (declaredEncoding?_eq_some_iff h).1 hname⟩
  unfold decodeText Encoding.decodeMarkedUtf8
  dsimp only
  rw [hdeclared, h, decodeUtf8_encodeUtf8]
  rfl

/-- A file that names UTF-8 is read as UTF-8, a mark being a character like others. -/
theorem decodeText_of_declares {t : List Char} (h : Encoding.withoutMark bytes = encodeUtf8 s)
    (hname : Declares s name) (hutf8 : name.map Char.toLower = "utf-8".toList)
    (ht : bytes = encodeUtf8 t) : decodeText bytes = t := by
  obtain ⟨e, he, hdecode⟩ := ofName?_utf8 hutf8
  have hdeclared := (declaredEncoding?_eq_some_iff h).2 hname
  unfold decodeText
  dsimp only
  rw [hdeclared, Option.bind_some, he, Option.bind_some, hdecode, ht, decodeUtf8_encodeUtf8]

/-- The mark and a text behind it are the bytes of one text. -/
theorem decodeText_marked_of_declares (hname : Declares s name)
    (hutf8 : name.map Char.toLower = "utf-8".toList) :
    decodeText (Encoding.byteOrderMark ++ encodeUtf8 s) = '\uFEFF' :: s := by
  refine decodeText_of_declares (withoutMark_byteOrderMark _) hname hutf8 ?_
  rw [byteOrderMark_eq, ← encodeUtf8_append, List.singleton_append]

/-- Files in UTF-8 that name no encoding, or UTF-8 in any case of its letters.  Without a mark the
    text is read as it is.  Behind a mark it is read alone exactly if it names no encoding; else the
    mark stands in front of it, also in the vector image that is shown. -/
theorem decodeText_encodeUtf8 (hmark : s.head? ≠ some '\uFEFF')
    (hutf8 : ∀ name, Declares s name → name.map Char.toLower = "utf-8".toList) :
    decodeText (encodeUtf8 s) = s ∧
      (decodeText (Encoding.byteOrderMark ++ encodeUtf8 s) = s ↔ ¬ ∃ name, Declares s name) ∧
      (decodeText (Encoding.byteOrderMark ++ encodeUtf8 s) = '\uFEFF' :: s ↔
        ∃ name, Declares s name) ∧
      ∀ (tree : FileTree) (path : String),
        tree.content? path = some (Encoding.byteOrderMark ++ encodeUtf8 s) →
        ∃ image, tree.readText path = some image ∧
          (image.toList.head? = some '\uFEFF' ↔ ∃ name, Declares s name) := by
  have hread : ∀ (tree : FileTree) (path : String),
      tree.content? path = some (Encoding.byteOrderMark ++ encodeUtf8 s) →
      tree.readText path =
        some (String.ofList (decodeText (Encoding.byteOrderMark ++ encodeUtf8 s))) := by
    intro tree path hcontent
    rw [FileTree.readText, hcontent, Option.map_some]
  by_cases hdeclares : ∃ name, Declares s name
  · obtain ⟨name, hname⟩ := hdeclares
    have hmarked := decodeText_marked_of_declares hname (hutf8 name hname)
    have hne : '\uFEFF' :: s ≠ s := List.cons_ne_self _ _
    refine ⟨decodeText_of_declares (withoutMark_encodeUtf8 hmark) hname (hutf8 name hname) rfl,
      iff_of_false (hmarked ▸ hne) (not_not_intro ⟨name, hname⟩),
      iff_of_true hmarked ⟨name, hname⟩, ?_⟩
    intro tree path hcontent
    refine ⟨_, hread tree path hcontent, iff_of_true ?_ ⟨name, hname⟩⟩
    rw [hmarked, String.toList_ofList, List.head?_cons]
  · have halone : decodeText (Encoding.byteOrderMark ++ encodeUtf8 s) = s :=
      decodeText_of_not_declares (withoutMark_byteOrderMark _) hdeclares
    have hne : s ≠ '\uFEFF' :: s := (List.cons_ne_self _ _).symm
    refine ⟨decodeText_of_not_declares (withoutMark_encodeUtf8 hmark) hdeclares,
      iff_of_true halone hdeclares, iff_of_false (halone.symm ▸ hne) hdeclares, ?_⟩
    intro tree path hcontent
    refine ⟨_, hread tree path hcontent, iff_of_false ?_ hdeclares⟩
    rw [halone, String.toList_ofList]
    exact hmark

/-- The text of a vector image that names UTF-8 in capitals. -/
def imageInUtf8 : List Char := "<?xml version=\"1.0\" encoding=\"UTF-8\"?><svg/>".toList

theorem declares_imageInUtf8 : Declares imageInUtf8 name ↔ "UTF-8".toList = name :=
  declares_iff (by decide +kernel) (by decide)

theorem utf8_of_declares_imageInUtf8 (h : Declares imageInUtf8 name) :
    name.map Char.toLower = "utf-8".toList := by
  rw [← declares_imageInUtf8.1 h]
  decide

theorem decodeText_encodeUtf8_image :
    imageInUtf8.head? ≠ some '\uFEFF' ∧ decodeText (encodeUtf8 imageInUtf8) = imageInUtf8 ∧
      decodeText (Encoding.byteOrderMark ++ encodeUtf8 imageInUtf8) = '\uFEFF' :: imageInUtf8 := by
  have hmark : imageInUtf8.head? ≠ some '\uFEFF' := by decide
  obtain ⟨halone, -, hmarked, -⟩ := decodeText_encodeUtf8 hmark fun _ => utf8_of_declares_imageInUtf8
  exact ⟨hmark, halone, hmarked.2 ⟨_, declares_imageInUtf8.2 rfl⟩⟩

/-- Not all texts that name UTF-8 lose the mark before them. -/
theorem not_forall_mark_dropped :
    ¬ ∀ s : List Char, s.head? ≠ some '\uFEFF' →
      (∀ name, Declares s name → name.map Char.toLower = "utf-8".toList) →
      decodeText (encodeUtf8 s) = s ∧ decodeText (Encoding.byteOrderMark ++ encodeUtf8 s) = s := by
  intro hall
  have hdeclares := declares_imageInUtf8.2 rfl
  have hmarked := decodeText_marked_of_declares hdeclares (utf8_of_declares_imageInUtf8 hdeclares)
  rw [(hall imageInUtf8 (by decide) fun _ => utf8_of_declares_imageInUtf8).2] at hmarked
  exact List.cons_ne_self _ _ hmarked.symm

end RecordTemplate.Source
