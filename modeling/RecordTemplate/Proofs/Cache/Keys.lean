/-
  RecordTemplate.Proofs.Cache.Keys

  What the key of a widget's output says about the record, the widget and the settings.  The
  settings are known from the key if the hash is, but record and widget stand in it one after
  the other with an underscore between them (`glued`), and an underscore may be part of either.
-/

import RecordTemplate.Cache.Output
import RecordTemplate.Proofs.Cache.Payload

namespace RecordTemplate.Cache

open RecordTemplate.Number RecordTemplate.Text

/-! ## The hash -/

namespace Md5

theorem length_bytesOfNat (n k : Nat) : (bytesOfNat n k).length = n := by
  induction n generalizing k with
  | zero => rfl
  | succ n ih => rw [bytesOfNat, List.length_cons, ih]

theorem length_hexDigest (message : List UInt8) : (hexDigest message).length = 32 := by
  have hbyte (b : UInt8) : (hex 2 b.toNat).length = 2 := length_hex (by decide) b.toNat_lt
  simp [hexDigest, List.length_flatMap, length_bytesOfNat, hbyte]

end Md5

/-- The hash of the payload of settings, as it stands in a key. -/
def settingsHash (settings : Value) : List Char :=
  Md5.hexDigest (encodeUtf8 (payload settings).toList)

/-! ## Record and widget -/

/-- The part of a key that is for the record and the widget. -/
def glued (record widgetId : String) : String := record ++ "_" ++ widgetId

/-- The end of the text of a record, from an underscore on, stands at the beginning of the id of
    a widget instead. -/
def Shifts (record widgetId record' widgetId' : String) : Prop :=
  ∃ moved, record = record' ++ "_" ++ moved ∧ widgetId' = moved ++ "_" ++ widgetId

variable {record record' widgetId widgetId' : String}

theorem toList_glued (record widgetId : String) :
    (glued record widgetId).toList = record.toList ++ '_' :: widgetId.toList := by
  simp [glued]

theorem glued_of_shifts (h : Shifts record widgetId record' widgetId') :
    glued record widgetId = glued record' widgetId' := by
  obtain ⟨moved, rfl, rfl⟩ := h
  simp only [glued, String.append_assoc]

/-- A text that is longer than another one, with an underscore and more on both sides. -/
theorem shifts_of_append {rest : List Char}
    (hrecord : record.toList = record'.toList ++ '_' :: rest)
    (hwidget : widgetId'.toList = rest ++ '_' :: widgetId.toList) :
    Shifts record widgetId record' widgetId' :=
  ⟨String.ofList rest, String.toList_inj.1 (by simp [hrecord]),
    String.toList_inj.1 (by simp [hwidget])⟩

/-- Two records and widgets have the same part of a key only if an underscore is where the one
    record ends and in the id of the other. -/
theorem glued_eq_iff :
    glued record widgetId = glued record' widgetId' ↔
      (record = record' ∧ widgetId = widgetId') ∨ Shifts record widgetId record' widgetId' ∨
        Shifts record' widgetId' record widgetId := by
  constructor
  · intro h
    have hlists := congrArg String.toList h
    rw [toList_glued, toList_glued, List.append_eq_append_iff] at hlists
    -- one of the records is the beginning of the other
    obtain ⟨more, hrecord, hwidget⟩ | ⟨more, hrecord, hwidget⟩ := hlists
    · cases more with
      | nil =>
        rw [List.append_nil, String.toList_inj] at hrecord
        exact .inl ⟨hrecord.symm, String.toList_inj.1 (List.cons.inj hwidget).2⟩
      | cons _ rest =>
        obtain ⟨rfl, htail⟩ := List.cons.inj hwidget
        exact .inr (.inr (shifts_of_append hrecord htail))
    · cases more with
      | nil =>
        rw [List.append_nil, String.toList_inj] at hrecord
        exact .inl ⟨hrecord, (String.toList_inj.1 (List.cons.inj hwidget).2).symm⟩
      | cons _ rest =>
        obtain ⟨rfl, htail⟩ := List.cons.inj hwidget
        exact .inr (.inl (shifts_of_append hrecord htail))
  · rintro (⟨rfl, rfl⟩ | h | h)
    · rfl
    · exact glued_of_shifts h
    · exact (glued_of_shifts h).symm

theorem not_shifts (h : '_' ∉ record.toList) : ¬ Shifts record widgetId record' widgetId' := by
  rintro ⟨moved, rfl, -⟩
  simp at h

/-- The texts of records that have no underscore do not run into the id of a widget. -/
theorem glued_inj (h : '_' ∉ record.toList) (h' : '_' ∉ record'.toList) :
    glued record widgetId = glued record' widgetId' ↔ record = record' ∧ widgetId = widgetId' := by
  simp only [glued_eq_iff, not_shifts h, not_shifts h', or_false]

/-! ## Record ids -/

theorem digits_inj {m n : Nat} (h : digits m = digits n) : m = n := by
  rw [← Nat.ofDigitChars_toDigits (b := 10) (n := m) (by decide) (by decide),
    ← Nat.ofDigitChars_toDigits (b := 10) (n := n) (by decide) (by decide)]
  exact congrArg (Nat.ofDigitChars 10 · 0) h

theorem isDigit_of_mem_digits {n : Nat} {c : Char} (h : c ∈ digits n) : c.isDigit = true :=
  Nat.isDigit_of_mem_toDigits (by decide) (by decide) h

theorem intText_inj {m n : Int} (h : intText m = intText n) : m = n := by
  have hminus {a b : Nat} : '-' :: digits a ≠ digits b := by
    intro h
    have := isDigit_of_mem_digits (h ▸ List.mem_cons_self .. : '-' ∈ digits b)
    exact absurd this (by decide)
  unfold intText at h
  split at h <;> split at h
  · have := digits_inj (List.cons.inj h).2
    omega
  · exact absurd h hminus
  · exact absurd h.symm hminus
  · have := digits_inj h
    omega

/-- The text of an integer has digits and at most a sign. -/
theorem mem_intText {n : Int} {c : Char} (h : c ∈ intText n) : c = '-' ∨ c.isDigit = true := by
  unfold intText at h
  split at h
  · exact (List.mem_cons.1 h).imp_right isDigit_of_mem_digits
  · exact .inr (isDigit_of_mem_digits h)

/-- The id of a record that has a number, and null without a record. -/
def recordValue : Option Int → Value
  | none => .null
  | some n => .int n

theorem display_recordValue (id : Option Int) :
    (recordValue id).display = match id with
      | none => "None"
      | some n => intString n := by
  cases id <;> rfl

theorem underscore_not_mem_recordValue (id : Option Int) :
    '_' ∉ (recordValue id).display.toList := by
  rw [display_recordValue]
  cases id with
  | none => decide
  | some n =>
    simp only [intString, String.toList_ofList]
    intro h
    obtain h | h := mem_intText h
    · exact absurd h (by decide)
    · exact absurd h (by decide)

theorem recordValue_display_inj {id id' : Option Int}
    (h : (recordValue id).display = (recordValue id').display) : id = id' := by
  have hnone (n : Int) : "None" ≠ intString n := by
    intro h
    have hmem : 'N' ∈ intText n := by
      rw [← String.toList_ofList (l := intText n)]
      exact congrArg String.toList h ▸ (by decide : 'N' ∈ "None".toList)
    obtain h | h := mem_intText hmem
    · exact absurd h (by decide)
    · exact absurd h (by decide)
  rw [display_recordValue, display_recordValue] at h
  cases id with
  | none =>
    cases id' with
    | none => rfl
    | some n => exact absurd h (hnone n)
  | some m =>
    cases id' with
    | none => exact absurd h.symm (hnone m)
    | some n => rw [intText_inj (String.ofList_injective h)]

/-! ## Keys -/

theorem toList_outputKey (recordId : Value) (widgetId : String) (settings : Value) :
    (outputKey recordId widgetId settings).toList =
      (glued recordId.display widgetId).toList ++ '_' :: settingsHash settings := by
  simp [outputKey, glued, settingsHash]

/-- Keys are alike if what they hold about the record and the widget is, and the hashes are. -/
theorem outputKey_eq_iff_glued {recordId recordId' settings settings' : Value} :
    outputKey recordId widgetId settings = outputKey recordId' widgetId' settings' ↔
      glued recordId.display widgetId = glued recordId'.display widgetId' ∧
        settingsHash settings = settingsHash settings' := by
  rw [← String.toList_inj, toList_outputKey, toList_outputKey]
  constructor
  · intro h
    have hlength :
        ('_' :: settingsHash settings).length = ('_' :: settingsHash settings').length := by
      simp only [List.length_cons, settingsHash, Md5.length_hexDigest]
    obtain ⟨hglued, hhash⟩ := List.append_inj' h hlength
    exact ⟨String.toList_inj.1 hglued, (List.cons.inj hhash).2⟩
  · rintro ⟨hglued, hhash⟩
    rw [hglued, hhash]

/-- Settings whose values are texts under distinct names. -/
structure TextSettings where
  entries : List (String × String)
  distinct : (entries.map Prod.fst).Nodup

namespace TextSettings

def value (s : TextSettings) : Value := .mapping (textEntries s.entries)

/-- The same texts under the same names, in whatever order. -/
def Same (s s' : TextSettings) : Prop := s.entries.Perm s'.entries

/-- The hash tells two settings apart if their payloads differ. -/
def HashSeparates (s s' : TextSettings) : Prop :=
  settingsHash s.value = settingsHash s'.value → payload s.value = payload s'.value

/-- The hash of settings whose names are in order. -/
theorem settingsHash_of_sorted (s : TextSettings)
    (hsorted : s.entries.Pairwise fun e e' => decide (e.1 ≤ e'.1) = true) :
    settingsHash s.value = Md5.hexDigest (encodeUtf8 ('\x7b' :: membersText s.entries)) := by
  rw [settingsHash, value, toList_payload, sortMembers, List.mergeSort_of_pairwise hsorted]

/-- The same settings have the same text under a name. -/
theorem lookup_eq_of_perm {es es' : List (String × String)} (h : es.Perm es')
    (hdistinct : (es.map Prod.fst).Nodup) (name : String) : es.lookup name = es'.lookup name := by
  induction h with
  | nil => rfl
  | cons e _ ih =>
    rw [List.lookup_cons, List.lookup_cons, ih (List.nodup_cons.1 hdistinct).2]
  | swap e e' es =>
    simp only [List.map_cons, List.nodup_cons, List.mem_cons, not_or] at hdistinct
    rw [List.lookup_cons, List.lookup_cons, List.lookup_cons, List.lookup_cons]
    by_cases hname : name = e.1
    · simp [hname, beq_eq_false_iff_ne.2 (Ne.symm hdistinct.1.1)]
    · simp [beq_eq_false_iff_ne.2 hname]
  | trans h _ ih ih' => exact (ih hdistinct).trans (ih' ((h.map Prod.fst).nodup_iff.1 hdistinct))

theorem settingsHash_eq_iff {s s' : TextSettings} (hmd5 : s.HashSeparates s') :
    settingsHash s.value = settingsHash s'.value ↔ s.Same s' := by
  have hpayload : payload s.value = payload s'.value ↔ s.Same s' := payload_eq_iff s.distinct
  constructor
  · exact fun h => hpayload.1 (hmd5 h)
  · intro h
    rw [settingsHash, settingsHash, hpayload.2 h]

end TextSettings

/-- When two renders have the same key: their settings are the same, and so are their records and
    widgets, unless the end of the one record stands at the beginning of the other widget's id.
    If no record has an underscore in its text, the key tells everything apart. -/
theorem outputKey_eq_iff (recordId recordId' : Value) (widgetId widgetId' : String)
    (s s' : TextSettings) (hmd5 : s.HashSeparates s') :
    (outputKey recordId widgetId s.value = outputKey recordId' widgetId' s'.value ↔
      s.Same s' ∧
        ((recordId.display = recordId'.display ∧ widgetId = widgetId') ∨
          Shifts recordId.display widgetId recordId'.display widgetId' ∨
          Shifts recordId'.display widgetId' recordId.display widgetId)) ∧
    ('_' ∉ recordId.display.toList → '_' ∉ recordId'.display.toList →
      outputKey recordId widgetId s.value = outputKey recordId' widgetId' s'.value →
        recordId.display = recordId'.display ∧ widgetId = widgetId' ∧ s.Same s') := by
  rw [outputKey_eq_iff_glued, TextSettings.settingsHash_eq_iff hmd5]
  refine ⟨by rw [and_comm, glued_eq_iff], ?_⟩
  rintro hplain hplain' ⟨hglued, hsame⟩
  obtain ⟨hrecord, hwidget⟩ := (glued_inj hplain hplain').1 hglued
  exact ⟨hrecord, hwidget, hsame⟩

/-- Other settings make another key for the same widget on the same record. -/
theorem outputKey_eq_iff_settings :
    outputKey (.int 42) "repeater-1" (.mapping [("template", .text "%custom:name%")]) ≠
      outputKey (.int 42) "repeater-1" (.mapping [("template", .text "%custom:title%")]) := by
  let s : TextSettings := ⟨[("template", "%custom:name%")], by decide⟩
  let s' : TextSettings := ⟨[("template", "%custom:title%")], by decide⟩
  have hmd5 : s.HashSeparates s' := fun h => absurd h (by decide +kernel)
  intro h
  have hsame := ((outputKey_eq_iff (.int 42) (.int 42) "repeater-1" "repeater-1" s s' hmd5).1.1 h).1
  exact absurd (List.perm_singleton.1 hsame) (by decide)

/-- Records and widgets are not always told apart: the record `1_a` with the widget `b` has the key
    of the record `1` with the widget `a_b`. -/
theorem not_forall_outputKey_inj :
    ¬ ∀ (record record' widgetId widgetId' : String) (s s' : TextSettings),
      s.HashSeparates s' →
      outputKey (.text record) widgetId s.value = outputKey (.text record') widgetId' s'.value →
        record = record' ∧ widgetId = widgetId' ∧ s.Same s' := by
  intro h
  let s : TextSettings := ⟨[("template", "%custom:name%")], by decide⟩
  have hkeys := h "1_a" "1" "b" "a_b" s s (fun _ => rfl) (by decide +kernel)
  exact absurd hkeys.1 (by decide)

end RecordTemplate.Cache
