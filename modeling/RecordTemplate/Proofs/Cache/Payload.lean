/-
  RecordTemplate.Proofs.Cache.Payload

  The payload of settings that are texts says what the settings are.  One character is read
  back from what is written for it, so no written text is the beginning of another
  (`jsonText_append_inj`), and members that are written alike are alike.
-/

import Mathlib.Algebra.Ring.Nat
import Mathlib.Data.List.Nodup
import RecordTemplate.Cache.Payload
import RecordTemplate.Text.Escaped

namespace RecordTemplate.Cache

open RecordTemplate.Text

/-! ## Hexadecimal digits -/

theorem length_hex {width n : Nat} (hwidth : 0 < width) (h : n < 16 ^ width) :
    (hex width n).length = width := by
  have := (Nat.length_toDigits_le_iff (by decide) hwidth).2 h
  simp only [hex, List.length_append, List.length_replicate]
  omega

/-- The last of several digits. -/
theorem hex_succ {width : Nat} (hwidth : 0 < width) (n : Nat) :
    hex (width + 1) n = hex width (n / 16) ++ [Nat.digitChar (n % 16)] := by
  by_cases hn : n < 16
  · have hfirst : n / 16 = 0 := Nat.div_eq_of_lt hn
    obtain ⟨k, rfl⟩ := Nat.exists_eq_add_of_lt hwidth
    rw [hfirst, Nat.mod_eq_of_lt hn, hex, hex, Nat.toDigits_of_lt_base hn]
    simp [List.replicate_succ']
  · have hfirst : 0 < n / 16 := Nat.div_pos (Nat.le_of_not_lt hn) (by decide)
    have hdigits : Nat.toDigits 16 n = Nat.toDigits 16 (n / 16) ++ [Nat.digitChar (n % 16)] := by
      rw [← Nat.toDigits_of_lt_base (Nat.mod_lt n (by decide)),
        Nat.toDigits_append_toDigits (by decide) hfirst (Nat.mod_lt n (by decide)),
        Nat.div_add_mod]
    rw [hex, hex, hdigits]
    simp

theorem hexDigit?_digitChar : ∀ d < 16, hexDigit? (Nat.digitChar d).toNat = some d := by
  decide

/-- The number that four digits at the beginning of a text are for. -/
def unitOf (s : List Char) : Nat :=
  (s.take 4).foldl (fun n c => 16 * n + (hexDigit? c.toNat).getD 0) 0

theorem unitOf_hex {u : Nat} (h : u < 0x10000) (s : List Char) : unitOf (hex 4 u ++ s) = u := by
  have hfour : hex 4 u = [Nat.digitChar (u / 16 / 16 / 16), Nat.digitChar (u / 16 / 16 % 16),
      Nat.digitChar (u / 16 % 16), Nat.digitChar (u % 16)] := by
    have hone : u / 16 / 16 / 16 < 16 := by omega
    rw [hex_succ (by decide), hex_succ (by decide), hex_succ (by decide), hex,
      Nat.toDigits_of_lt_base hone]
    rfl
  have hdigit (n : Nat) : hexDigit? (Nat.digitChar (n % 16)).toNat = some (n % 16) :=
    hexDigit?_digitChar _ (Nat.mod_lt n (by decide))
  rw [hfour, unitOf]
  simp only [List.cons_append, List.take_succ_cons, List.take_zero, List.nil_append,
    List.foldl_cons, List.foldl_nil, hdigit, hexDigit?_digitChar (u / 16 / 16 / 16) (by omega),
    Option.getD_some]
  omega

/-! ## Characters -/

/-- What a letter behind the backslash stands for in JSON. -/
def shortEscape (c : Char) : Char :=
  if c = 'n' then '\n'
  else if c = 'r' then '\r'
  else if c = 't' then '\t'
  else if c = 'f' then Char.ofNat 0xC
  else if c = 'b' then Char.ofNat 0x8
  else c

/-- The character that a JSON text begins with, and the rest. -/
def readChar : List Char → Option (Char × List Char)
  | '\\' :: 'u' :: s =>
    let u := unitOf s
    let rest := s.drop 4
    if 0xD800 ≤ u ∧ u < 0xE000 then
      -- the second half of a pair follows
      some (Char.ofNat (0x10000 + (u - 0xD800) * 0x400 + (unitOf (rest.drop 2) - 0xDC00)),
        rest.drop 6)
    else some (Char.ofNat u, rest)
  | '\\' :: c :: s => some (shortEscape c, s)
  | c :: s => some (c, s)
  | [] => none

theorem length_unit {u : Nat} (h : u < 0x10000) : (hex 4 u).length = 4 :=
  length_hex (by decide) h

theorem readChar_unitEscape {u : Nat} (h : u < 0x10000) (hplain : ¬ (0xD800 ≤ u ∧ u < 0xE000))
    (s : List Char) : readChar (unitEscape u ++ s) = some (Char.ofNat u, s) := by
  simp only [unitEscape, List.cons_append, readChar, unitOf_hex h, if_neg hplain]
  rw [List.drop_left' (length_unit h)]

theorem readChar_pair {high low : Nat} (hhigh : high < 0x400) (hlow : low < 0x400)
    (s : List Char) :
    readChar (unitEscape (0xD800 + high) ++ unitEscape (0xDC00 + low) ++ s) =
      some (Char.ofNat (0x10000 + high * 0x400 + low), s) := by
  have hfirst : 0xD800 + high < 0x10000 := by omega
  have hsecond : 0xDC00 + low < 0x10000 := by omega
  have hsurrogate : 0xD800 ≤ 0xD800 + high ∧ 0xD800 + high < 0xE000 := by omega
  have hafter : (hex 4 (0xDC00 + low) ++ s).drop 4 = s := List.drop_left' (length_unit hsecond)
  have hsum : 0x10000 + (0xD800 + high - 0xD800) * 0x400 + (0xDC00 + low - 0xDC00) =
      0x10000 + high * 0x400 + low := by omega
  simp only [unitEscape, List.cons_append, List.append_assoc, readChar, unitOf_hex hfirst,
    if_pos hsurrogate, List.drop_left' (length_unit hfirst), List.drop_succ_cons, List.drop_zero,
    unitOf_hex hsecond, hafter, hsum]

/-- Reading a character undoes writing it. -/
theorem readChar_jsonChar (c : Char) (s : List Char) :
    readChar (jsonChar c ++ s) = some (c, s) := by
  have hvalid : c.toNat < 0xD800 ∨ 0xDFFF < c.toNat ∧ c.toNat < 0x110000 := c.valid
  unfold jsonChar
  simp only
  split
  · next h =>
    obtain rfl | rfl := h <;> rfl
  split
  · next h => subst h; rfl
  split
  · next h => subst h; rfl
  split
  · next h => subst h; rfl
  split
  · next h =>
    rw [← Char.ofNat_toNat c, h]
    rfl
  split
  · next h =>
    rw [← Char.ofNat_toNat c, h]
    rfl
  split
  · next hmark _ _ _ _ _ h =>
    rw [not_or] at hmark
    simp [readChar, hmark.2]
  split
  · next h =>
    rw [readChar_unitEscape h (by omega), Char.ofNat_toNat]
  · next h =>
    have hsum : 0x10000 + (c.toNat - 0x10000) / 0x400 * 0x400 + (c.toNat - 0x10000) % 0x400 =
      c.toNat := by omega
    rw [readChar_pair (by omega) (by omega), hsum, Char.ofNat_toNat]

/-! ## Texts -/

theorem ne_of_jsonChar_append {c : Char} {s t : List Char} : jsonChar c ++ s ≠ '"' :: t := by
  intro h
  have hread := readChar_jsonChar c s
  rw [h] at hread
  obtain ⟨rfl, -⟩ : '"' = c ∧ t = s := by simpa [readChar] using hread
  -- a quotation mark is written with a backslash
  cases h

theorem flatMap_jsonChar_append_inj {s t x y : List Char}
    (h : s.flatMap jsonChar ++ '"' :: x = t.flatMap jsonChar ++ '"' :: y) : s = t ∧ x = y := by
  induction s generalizing t with
  | nil =>
    cases t with
    | nil => exact ⟨rfl, (List.cons.inj h).2⟩
    | cons d t =>
      rw [List.flatMap_cons, List.append_assoc] at h
      exact absurd h.symm ne_of_jsonChar_append
  | cons c s ih =>
    cases t with
    | nil =>
      rw [List.flatMap_cons, List.append_assoc] at h
      exact absurd h ne_of_jsonChar_append
    | cons d t =>
      rw [List.flatMap_cons, List.flatMap_cons, List.append_assoc, List.append_assoc] at h
      have hread := congrArg readChar h
      rw [readChar_jsonChar, readChar_jsonChar] at hread
      obtain ⟨rfl, hrest⟩ := Prod.mk.inj (Option.some.inj hread)
      obtain ⟨rfl, hxy⟩ := ih hrest
      exact ⟨rfl, hxy⟩

theorem toList_jsonText (s : String) :
    (jsonText s).toList = '"' :: (s.toList.flatMap jsonChar ++ ['"']) := by
  rw [jsonText, String.toList_ofList]
  rfl

/-- A text in JSON shows where it ends and what it is. -/
theorem jsonText_append_inj {s t : String} {x y : List Char}
    (h : (jsonText s).toList ++ x = (jsonText t).toList ++ y) : s = t ∧ x = y := by
  simp only [toList_jsonText, List.cons_append, List.append_assoc, List.nil_append] at h
  obtain ⟨hst, hxy⟩ := flatMap_jsonChar_append_inj (List.cons.inj h).2
  exact ⟨String.toList_inj.1 hst, hxy⟩

/-! ## Members -/

/-- A member of an object whose value is a text. -/
def memberText (m : String × String) : String := jsonText m.1 ++ ": " ++ jsonText m.2

theorem memberText_append_inj {m n : String × String} {x y : List Char}
    (h : (memberText m).toList ++ x = (memberText n).toList ++ y) : m = n ∧ x = y := by
  simp only [memberText, String.toList_append, List.append_assoc] at h
  obtain ⟨hname, h⟩ := jsonText_append_inj h
  obtain ⟨hvalue, hxy⟩ := jsonText_append_inj (List.append_cancel_left h)
  exact ⟨Prod.ext hname hvalue, hxy⟩

/-- The members of an object, and the brace that closes it. -/
def membersText (ms : List (String × String)) : List Char :=
  (commaSeparated (ms.map memberText)).toList ++ ['\x7d']

/-- What follows a member. -/
def afterMember : List (String × String) → List Char
  | [] => ['\x7d']
  | m :: ms => ',' :: ' ' :: membersText (m :: ms)

theorem membersText_cons (m : String × String) (ms : List (String × String)) :
    membersText (m :: ms) = (memberText m).toList ++ afterMember ms := by
  cases ms with
  | nil => simp [membersText, commaSeparated, afterMember]
  | cons m' ms => simp [membersText, commaSeparated, afterMember, String.intercalate_cons_cons]

theorem membersText_cons_ne_nil (m : String × String) (ms : List (String × String)) :
    membersText (m :: ms) ≠ membersText [] := by
  simp [memberText, toList_jsonText, membersText, commaSeparated]

/-- Members that are written alike are alike. -/
theorem membersText_inj {ms ns : List (String × String)} (h : membersText ms = membersText ns) :
    ms = ns := by
  induction ms generalizing ns with
  | nil =>
    cases ns with
    | nil => rfl
    | cons n ns => exact absurd h.symm (membersText_cons_ne_nil n ns)
  | cons m ms ih =>
    cases ns with
    | nil => exact absurd h (membersText_cons_ne_nil m ms)
    | cons n ns =>
      rw [membersText_cons, membersText_cons] at h
      obtain ⟨rfl, hafter⟩ := memberText_append_inj h
      cases ms with
      | nil =>
        cases ns with
        | nil => rfl
        | cons n ns => simp [afterMember] at hafter
      | cons m' ms =>
        cases ns with
        | nil => simp [afterMember] at hafter
        | cons n ns => rw [ih (List.cons.inj (List.cons.inj hafter).2).2]

/-! ## Settings -/

/-- Settings whose values are texts. -/
def textEntries (es : List (String × String)) : Entries := es.map fun e => (e.1, .text e.2)

theorem jsonMembers_textEntries (es : List (String × String)) :
    jsonMembers (textEntries es) = es.map fun e => (e.1, jsonText e.2) := by
  induction es with
  | nil => rfl
  | cons e es ih => simp_all [textEntries, jsonMembers, jsonOf]

theorem sortMembers_map (es : List (String × String)) (f : String → String) :
    sortMembers (es.map fun e => (e.1, f e.2)) = (sortMembers es).map fun e => (e.1, f e.2) :=
  (List.map_mergeSort (f := fun e : String × String => (e.1, f e.2)) fun _ _ _ _ => rfl).symm

theorem toList_payload (es : List (String × String)) :
    (payload (.mapping (textEntries es))).toList = '\x7b' :: membersText (sortMembers es) := by
  have hpresent : (if (Value.mapping (textEntries es)).isPresent then Value.mapping (textEntries es)
      else .mapping []) = .mapping (textEntries es) := by
    cases es <;> rfl
  rw [payload, hpresent, jsonOf, jsonObject, jsonMembers_textEntries, sortMembers_map,
    List.map_map, String.toList_append, String.toList_append, membersText]
  rfl

/-- Members under distinct names have one order. -/
theorem sortMembers_eq_of_perm {es es' : List (String × String)} (h : es.Perm es')
    (hdistinct : (es.map Prod.fst).Nodup) : sortMembers es = sortMembers es' := by
  have hsorted (ms : List (String × String)) :
      (sortMembers ms).Pairwise fun a b => decide (a.1 ≤ b.1) = true :=
    List.pairwise_mergeSort
      (fun a b c hab hbc => by
        simp only [decide_eq_true_eq] at hab hbc ⊢
        exact String.le_trans hab hbc)
      (fun a b => by simpa using String.le_total a.1 b.1) ms
  have hperm : (sortMembers es).Perm (sortMembers es') :=
    (List.mergeSort_perm ..).trans (h.trans (List.mergeSort_perm ..).symm)
  refine List.Perm.eq_of_pairwise (fun a b ha hb hab hba => ?_) (hsorted es) (hsorted es') hperm
  have ha : a ∈ es := (List.mergeSort_perm ..).mem_iff.1 ha
  have hb : b ∈ es := h.mem_iff.2 ((List.mergeSort_perm ..).mem_iff.1 hb)
  simp only [decide_eq_true_eq] at hab hba
  exact List.inj_on_of_nodup_map hdistinct ha hb (String.le_antisymm hab hba)

/-- The payload of settings says what their entries are, and not in which order they stand. -/
theorem payload_eq_iff {es es' : List (String × String)} (hdistinct : (es.map Prod.fst).Nodup) :
    payload (.mapping (textEntries es)) = payload (.mapping (textEntries es')) ↔ es.Perm es' := by
  constructor
  · intro h
    have hlists := congrArg String.toList h
    rw [toList_payload, toList_payload] at hlists
    calc es.Perm (sortMembers es) := (List.mergeSort_perm ..).symm
      _ = sortMembers es' := membersText_inj (List.cons.inj hlists).2
      _ |>.Perm es' := List.mergeSort_perm ..
  · intro h
    rw [← String.toList_inj, toList_payload, toList_payload, sortMembers_eq_of_perm h hdistinct]

end RecordTemplate.Cache
