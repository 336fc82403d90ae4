/-
  RecordTemplate.Template.Recogniser

  Finding constructs in a text.  A recogniser looks at the beginning of a text only; a scan
  applies it from left to right and cuts the text into what was found and what lies between.
  Nothing is lost: the pieces of a scan make up the text again.
-/

namespace RecordTemplate.Template

/-! ## Recognisers -/

/-- A construct read from the beginning of a text, its own text, and what follows it. -/
structure Reading (α : Type) where
  item : α
  text : List Char
  rest : List Char

/-- The reading of a construct that is made of another one. -/
def Reading.map {α β : Type} (f : α → β) (r : Reading α) : Reading β := ⟨f r.item, r.text, r.rest⟩

/-- Whether a reading takes apart a text, of which it takes something. -/
def Reading.Splits {α : Type} (r : Reading α) (s : List Char) : Prop :=
  r.text ≠ [] ∧ s = r.text ++ r.rest

/-- A rule that finds a construct at the beginning of a text. -/
structure Recogniser (α : Type) where
  run : List Char → Option (Reading α)
  splits : ∀ {s : List Char} {r : Reading α}, run s = some r → r.Splits s

namespace Recogniser

variable {α : Type}

theorem shorter (rule : Recogniser α) {s : List Char} {r : Reading α} (h : rule.run s = some r) :
    r.rest.length < s.length := by
  obtain ⟨hne, hs⟩ := rule.splits h
  have := List.length_pos_iff.2 hne
  rw [hs, List.length_append]
  omega

end Recogniser

/-! ## Scans -/

/-- A construct found in a text, its own text, and the text before it that belongs to no
    construct. -/
structure Found (α : Type) where
  lead : List Char
  item : α
  text : List Char

/-- A text cut into the constructs found in it and what follows the last of them. -/
structure Scan (α : Type) where
  found : List (Found α)
  tail : List Char

namespace Scan

variable {α : Type}

/-- A scan of the text with one more character in front. -/
def consChar (c : Char) (s : Scan α) : Scan α :=
  match s.found with
  | [] => ⟨[], c :: s.tail⟩
  | f :: fs => ⟨{ f with lead := c :: f.lead } :: fs, s.tail⟩

/-- The text that was scanned. -/
def text (s : Scan α) : List Char := s.found.flatMap (fun f => f.lead ++ f.text) ++ s.tail

theorem text_consChar (c : Char) (s : Scan α) : (s.consChar c).text = c :: s.text := by
  obtain ⟨fs, tail⟩ := s
  cases fs <;> simp [consChar, text]

end Scan

/-- Everything that a recogniser finds in a text, from left to right. -/
def Recogniser.scan {α : Type} (rule : Recogniser α) : List Char → Scan α
  | [] => ⟨[], []⟩
  | c :: cs =>
    match _h : rule.run (c :: cs) with
    | some r =>
      let later := rule.scan r.rest
      ⟨⟨[], r.item, r.text⟩ :: later.found, later.tail⟩
    | none => (rule.scan cs).consChar c
termination_by s => s.length
decreasing_by
  · exact rule.shorter (by assumption)
  · exact Nat.lt_succ_self _

theorem Recogniser.text_scan {α : Type} (rule : Recogniser α) (s : List Char) :
    (rule.scan s).text = s := by
  fun_induction rule.scan s with
  | case1 => simp [Scan.text]
  | case2 c cs r h later ih =>
    obtain ⟨_, hs⟩ := rule.splits h
    simp only [Scan.text, List.flatMap_cons, List.nil_append, List.append_assoc] at ih ⊢
    rw [ih, ← hs]
  | case3 c cs h ih => rw [Scan.text_consChar, ih]

end RecordTemplate.Template
