/-
  RecordTemplate.Proofs.Text.Utf8

  Texts in UTF-8.  The bytes of a text are read as that text (`decodeUtf8_encodeUtf8`), and no text
  begins inside the bytes of another one: if the bytes of a text begin with those of a piece, the
  text begins with the piece (`encodeUtf8_eq_append`).  Bytes below 0x80 are the characters of the
  same number, so what is found among such bytes is found in the text.
-/

import Mathlib.Tactic.Common
import RecordTemplate.Text.Encoding

namespace RecordTemplate.Text

variable {c : Char} {s piece : List Char} {bytes rest : List UInt8}

/-! ## Bytes -/

theorem toNat_ofNat_byte {n : Nat} (h : n < 0x100) : (UInt8.ofNat n).toNat = n := by
  rw [UInt8.toNat_ofNat']
  exact Nat.mod_eq_of_lt h

theorem toNat_continuation (n : Nat) : (continuation n).toNat = 0x80 + n % 0x40 :=
  toNat_ofNat_byte (by omega)

theorem continued?_continuation (acc k n : Nat) (rest : List UInt8) :
    continued? acc (k + 1) (continuation n :: rest) =
      continued? (acc * 0x40 + n % 0x40) k rest := by
  have hbyte := toNat_continuation n
  have hcontinues : 0x80 ≤ (continuation n).toNat ∧ (continuation n).toNat < 0xC0 := by omega
  rw [continued?, if_pos hcontinues, hbyte, Nat.add_sub_cancel_left]

theorem leading?_one {n : Nat} (h : n < 0x80) : leading? (UInt8.ofNat n) = some (n, 0, 0) := by
  unfold leading?
  rw [toNat_ofNat_byte (by omega)]
  exact if_pos h

theorem leading?_two {n : Nat} (h : n < 0x20) :
    leading? (UInt8.ofNat (0xC0 + n)) = some (n, 1, 0x80) := by
  unfold leading?
  rw [toNat_ofNat_byte (by omega)]
  dsimp only
  rw [if_neg (by omega), if_neg (by omega), if_pos (by omega), Nat.add_sub_cancel_left]

theorem leading?_three {n : Nat} (h : n < 0x10) :
    leading? (UInt8.ofNat (0xE0 + n)) = some (n, 2, 0x800) := by
  unfold leading?
  rw [toNat_ofNat_byte (by omega)]
  dsimp only
  rw [if_neg (by omega), if_neg (by omega), if_neg (by omega), if_pos (by omega),
    Nat.add_sub_cancel_left]

theorem leading?_four {n : Nat} (h : n < 0x8) :
    leading? (UInt8.ofNat (0xF0 + n)) = some (n, 3, 0x10000) := by
  unfold leading?
  rw [toNat_ofNat_byte (by omega)]
  dsimp only
  rw [if_neg (by omega), if_neg (by omega), if_neg (by omega), if_neg (by omega),
    if_pos (by omega), Nat.add_sub_cancel_left]

/-! ## One character -/

theorem encodeChar_of_lt (h : c.toNat < 0x80) : encodeChar c = [UInt8.ofNat c.toNat] := if_pos h

/-- The bytes of a character outside ASCII, by their number. -/
theorem encodeChar_cases (h : 0x80 ≤ c.toNat) :
    (c.toNat < 0x800 ∧
      encodeChar c = [UInt8.ofNat (0xC0 + c.toNat / 0x40), continuation c.toNat]) ∨
    (0x800 ≤ c.toNat ∧ c.toNat < 0x10000 ∧
      encodeChar c = [UInt8.ofNat (0xE0 + c.toNat / 0x1000), continuation (c.toNat / 0x40),
        continuation c.toNat]) ∨
    (0x10000 ≤ c.toNat ∧ c.toNat < 0x110000 ∧
      encodeChar c = [UInt8.ofNat (0xF0 + c.toNat / 0x40000), continuation (c.toNat / 0x1000),
        continuation (c.toNat / 0x40), continuation c.toNat]) := by
  have hmax : c.toNat < 0x110000 := by
    have hvalid : c.toNat.isValidChar := c.valid
    rcases hvalid with h | ⟨-, h⟩
    · omega
    · exact h
  unfold encodeChar
  dsimp only
  rw [if_neg (by omega)]
  by_cases htwo : c.toNat < 0x800
  · exact Or.inl ⟨htwo, if_pos htwo⟩
  · rw [if_neg htwo]
    by_cases hthree : c.toNat < 0x10000
    · exact Or.inr (Or.inl ⟨by omega, hthree, if_pos hthree⟩)
    · exact Or.inr (Or.inr ⟨by omega, hmax, if_neg hthree⟩)

/-- What a first byte and those behind it are read as. -/
theorem decodeUtf8_cons {b : UInt8} {bits k least : Nat} (hfirst : leading? b = some (bits, k, least))
    (hbits : continued? bits k bytes = some (c.toNat, rest)) (hleast : least ≤ c.toNat) :
    decodeUtf8 (b :: bytes) = (decodeUtf8 rest).map (c :: ·) := by
  have hvalid : c.toNat.isValidChar := c.valid
  rw [decodeUtf8, hfirst]
  dsimp only
  split
  · next hnone =>
    rw [hbits] at hnone
    cases hnone
  · next n rest' hsome =>
    rw [hbits] at hsome
    obtain ⟨rfl, rfl⟩ := Prod.mk.inj (Option.some.inj hsome)
    rw [if_pos ⟨hleast, hvalid⟩, Char.ofNat_toNat]

/-- The bytes of a character are read as the character, whatever follows. -/
theorem decodeUtf8_encodeChar (c : Char) (rest : List UInt8) :
    decodeUtf8 (encodeChar c ++ rest) = (decodeUtf8 rest).map (c :: ·) := by
  by_cases hone : c.toNat < 0x80
  · rw [encodeChar_of_lt hone]
    exact decodeUtf8_cons (leading?_one hone) rfl (Nat.zero_le _)
  · -- the bits that the bytes carry make up the number again
    rcases encodeChar_cases (by omega : 0x80 ≤ c.toNat) with
      ⟨htwo, hbytes⟩ | ⟨hlow, hthree, hbytes⟩ | ⟨hlow, hfour, hbytes⟩
    · rw [hbytes]
      refine decodeUtf8_cons (leading?_two (by omega)) ?_ (by omega)
      show continued? _ 1 (_ :: rest) = _
      rw [continued?_continuation, continued?]
      congr 2
      omega
    · rw [hbytes]
      refine decodeUtf8_cons (leading?_three (by omega)) ?_ (by omega)
      show continued? _ 2 (_ :: _ :: rest) = _
      rw [continued?_continuation, continued?_continuation, continued?]
      congr 2
      omega
    · rw [hbytes]
      refine decodeUtf8_cons (leading?_four (by omega)) ?_ (by omega)
      show continued? _ 3 (_ :: _ :: _ :: rest) = _
      rw [continued?_continuation, continued?_continuation, continued?_continuation, continued?]
      congr 2
      omega

/-- The bytes of a character outside ASCII are none of ASCII. -/
theorem le_of_mem_encodeChar (h : 0x80 ≤ c.toNat) {b : UInt8} (hb : b ∈ encodeChar c) :
    0x80 ≤ b.toNat := by
  have hcontinuation : ∀ n, 0x80 ≤ (continuation n).toNat := by
    intro n
    rw [toNat_continuation]
    omega
  have hfirst : ∀ n, 0x80 ≤ n → n < 0x100 → 0x80 ≤ (UInt8.ofNat n).toNat := by
    intro n hlow hhigh
    rw [toNat_ofNat_byte hhigh]
    exact hlow
  rcases encodeChar_cases h with ⟨htwo, hbytes⟩ | ⟨hlow, hthree, hbytes⟩ | ⟨hlow, hfour, hbytes⟩
  · rw [hbytes, List.mem_cons, List.mem_singleton] at hb
    rcases hb with rfl | rfl
    · exact hfirst _ (by omega) (by omega)
    · exact hcontinuation _
  · rw [hbytes, List.mem_cons, List.mem_cons, List.mem_singleton] at hb
    rcases hb with rfl | rfl | rfl
    · exact hfirst _ (by omega) (by omega)
    · exact hcontinuation _
    · exact hcontinuation _
  · rw [hbytes, List.mem_cons, List.mem_cons, List.mem_cons, List.mem_singleton] at hb
    rcases hb with rfl | rfl | rfl | rfl
    · exact hfirst _ (by omega) (by omega)
    · exact hcontinuation _
    · exact hcontinuation _
    · exact hcontinuation _

/-! ## Texts -/

theorem encodeUtf8_append (s t : List Char) : encodeUtf8 (s ++ t) = encodeUtf8 s ++ encodeUtf8 t :=
  List.flatMap_append

theorem encodeUtf8_cons (c : Char) (s : List Char) :
    encodeUtf8 (c :: s) = encodeChar c ++ encodeUtf8 s := List.flatMap_cons

/-- The bytes of a text are read as the text, whatever follows. -/
theorem decodeUtf8_append (s : List Char) (rest : List UInt8) :
    decodeUtf8 (encodeUtf8 s ++ rest) = (decodeUtf8 rest).map (s ++ ·) := by
  induction s with
  | nil => exact Option.map_id'.symm
  | cons c s ih =>
    rw [encodeUtf8_cons, List.append_assoc, decodeUtf8_encodeChar, ih, Option.map_map]
    rfl

theorem decodeUtf8_encodeUtf8 (s : List Char) : decodeUtf8 (encodeUtf8 s) = some s := by
  have hnil : decodeUtf8 [] = some [] := by rw [decodeUtf8]
  have happend := decodeUtf8_append s []
  rwa [hnil, Option.map_some, List.append_nil, List.append_nil] at happend

/-- A text whose bytes begin with those of a piece begins with the piece. -/
theorem encodeUtf8_eq_append (h : encodeUtf8 s = encodeUtf8 piece ++ bytes) :
    ∃ t, s = piece ++ t ∧ bytes = encodeUtf8 t := by
  have hread := decodeUtf8_encodeUtf8 s
  rw [h, decodeUtf8_append] at hread
  obtain ⟨t, -, hs⟩ := Option.map_eq_some_iff.1 hread
  refine ⟨t, hs.symm, ?_⟩
  rw [← hs, encodeUtf8_append] at h
  exact (List.append_cancel_left h).symm

/-! ## ASCII -/

theorem toNat_latin1Char (b : UInt8) : (Encoding.latin1Char b).toNat = b.toNat := by
  have hlt : b.toNat < 0x100 := b.toNat_lt
  have hvalid : b.toNat.isValidChar := Or.inl (by omega)
  have hchar : Encoding.latin1Char b = Char.ofNatAux b.toNat hvalid := dif_pos hvalid
  rw [hchar]
  rfl

theorem latin1Char_ofNat (h : c.toNat < 0x100) :
    Encoding.latin1Char (UInt8.ofNat c.toNat) = c := by
  rw [Encoding.latin1Char, toNat_ofNat_byte h, Char.ofNat_toNat]

theorem encodeChar_latin1Char {b : UInt8} (h : b.toNat < 0x80) :
    encodeChar (Encoding.latin1Char b) = [b] := by
  have hnat := toNat_latin1Char b
  rw [encodeChar_of_lt (by omega), hnat, UInt8.ofNat_toNat]

/-- Bytes of ASCII are the bytes of their characters. -/
theorem encodeUtf8_decodeLatin1 (h : ∀ b ∈ bytes, b.toNat < 0x80) :
    encodeUtf8 (Encoding.decodeLatin1 bytes) = bytes := by
  induction bytes with
  | nil => rfl
  | cons b bytes ih =>
    have hcons : Encoding.decodeLatin1 (b :: bytes) =
        Encoding.latin1Char b :: Encoding.decodeLatin1 bytes := rfl
    rw [hcons, encodeUtf8_cons, encodeChar_latin1Char (h b List.mem_cons_self),
      ih fun a ha => h a (List.mem_cons_of_mem _ ha)]
    rfl

/-- Characters of ASCII are the characters of their bytes. -/
theorem decodeLatin1_encodeUtf8 (h : ∀ c ∈ s, c.toNat < 0x80) :
    Encoding.decodeLatin1 (encodeUtf8 s) = s := by
  induction s with
  | nil => rfl
  | cons c s ih =>
    have hc := h c List.mem_cons_self
    have htail := ih fun d hd => h d (List.mem_cons_of_mem _ hd)
    rw [encodeUtf8_cons, encodeChar_of_lt hc]
    show Encoding.latin1Char _ :: Encoding.decodeLatin1 (encodeUtf8 s) = c :: s
    rw [latin1Char_ofNat (by omega), htail]

/-- Bytes of ASCII at the beginning of those of a text are its first characters. -/
theorem encodeUtf8_eq_append_of_lt (h : encodeUtf8 s = bytes ++ rest)
    (hbytes : ∀ b ∈ bytes, b.toNat < 0x80) :
    ∃ t, s = Encoding.decodeLatin1 bytes ++ t ∧ rest = encodeUtf8 t := by
  rw [← encodeUtf8_decodeLatin1 hbytes] at h
  exact encodeUtf8_eq_append h

/-! ## The mark of UTF-8 -/

/-- The mark is a character like others. -/
theorem byteOrderMark_eq : Encoding.byteOrderMark = encodeUtf8 ['\uFEFF'] := by decide

theorem withoutMark_byteOrderMark (bytes : List UInt8) :
    Encoding.withoutMark (Encoding.byteOrderMark ++ bytes) = bytes := by
  have hmark : Encoding.byteOrderMark.isPrefixOf (Encoding.byteOrderMark ++ bytes) = true :=
    List.isPrefixOf_iff_prefix.2 (List.prefix_append _ _)
  rw [Encoding.withoutMark, if_pos hmark, List.drop_left]

theorem withoutMark_encodeUtf8 (h : s.head? ≠ some '\uFEFF') :
    Encoding.withoutMark (encodeUtf8 s) = encodeUtf8 s := by
  refine if_neg fun hmark => h ?_
  obtain ⟨rest, hrest⟩ := List.isPrefixOf_iff_prefix.1 hmark
  rw [byteOrderMark_eq] at hrest
  obtain ⟨t, rfl, -⟩ := encodeUtf8_eq_append hrest.symm
  rfl

end RecordTemplate.Text
