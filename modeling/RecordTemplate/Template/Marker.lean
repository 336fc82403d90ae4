/-
  RecordTemplate.Template.Marker

  The markers of conditional blocks: `[if:condition]`, `[elseif:condition]`, `[else]` and
  `[/if]`.  A condition is any text without a closing bracket; one white space character may
  stand inside `else if`.
-/

import RecordTemplate.Template.Recogniser
import RecordTemplate.Text.Search

namespace RecordTemplate.Template

open RecordTemplate.Text

/-- A marker of a conditional block. -/
inductive Marker where
  | ifOpen (condition : List Char)
  | elseIf (condition : List Char)
  | otherwise
  | close
  deriving DecidableEq, Repr

namespace Marker

/-- The condition of a marker that has one. -/
def condition? : Marker → Option (List Char)
  | ifOpen c | elseIf c => some c
  | otherwise | close => none

/-! ## Recognition -/

def ifStart : List Char := ['[', 'i', 'f', ':']
def elseStart : List Char := ['[', 'e', 'l', 's', 'e']
def ifWord : List Char := ['i', 'f', ':']
def closeMark : List Char := ['[', '/', 'i', 'f', ']']

/-- The condition at the beginning of a text that a closing bracket ends, and what follows the
    bracket. -/
def argument? (s : List Char) : Option (List Char × List Char) :=
  match s.takeWhile (· ≠ ']'), s.dropWhile (· ≠ ']') with
  | c :: cs, _ :: rest => some (c :: cs, rest)
  | _, _ => none

theorem eq_of_argument? {s c rest : List Char} (h : argument? s = some (c, rest)) :
    s = c ++ ']' :: rest := by
  unfold argument? at h
  split at h
  · next c' cs d rest' ht hd =>
    cases h
    have hp : d = ']' := by
      have := List.head?_dropWhile_not (fun x => decide (x ≠ ']')) s
      rw [hd] at this
      simpa using this
    have := List.takeWhile_append_dropWhile (p := (· ≠ ']')) (l := s)
    rw [ht, hd, hp] at this
    exact this.symm
  · cases h

/-- The white space character at the beginning of a text, if it starts with one, and what
    follows it. -/
def gap (s : List Char) : List Char × List Char :=
  match s with
  | c :: rest => if isSpace c then ([c], rest) else ([], s)
  | [] => ([], [])

theorem eq_of_gap (s : List Char) : s = (gap s).1 ++ (gap s).2 := by
  cases s with
  | nil => rfl
  | cons c rest => by_cases h : isSpace c <;> simp [gap, h]

/-- A marker with a condition, which starts with `start`; `s` is what follows it. -/
def withArgument? (start : List Char) (make : List Char → Marker) (s : List Char) :
    Option (Reading Marker) :=
  (argument? s).map fun r => ⟨make r.1, start ++ r.1 ++ [']'], r.2⟩

theorem splits_withArgument? {start s : List Char} {make : List Char → Marker}
    {r : Reading Marker} (h : withArgument? start make s = some r) : r.Splits (start ++ s) := by
  obtain ⟨⟨c, rest⟩, hc, rfl⟩ := Option.map_eq_some_iff.1 h
  simp [Reading.Splits, eq_of_argument? hc]

/-- A marker that starts with `[else`, given what follows these characters. -/
def afterElse? (s : List Char) : Option (Reading Marker) :=
  match after? [']'] s with
  | some rest => some ⟨otherwise, elseStart ++ [']'], rest⟩
  | none =>
    match after? ifWord (gap s).2 with
    | some t => withArgument? (elseStart ++ (gap s).1 ++ ifWord) elseIf t
    | none => none

theorem splits_afterElse? {s : List Char} {r : Reading Marker} (h : afterElse? s = some r) :
    r.Splits (elseStart ++ s) := by
  unfold afterElse? at h
  split at h
  · next rest hr =>
    cases h
    exact ⟨by simp, by rw [after?_eq_some_iff.1 hr, List.append_assoc]⟩
  · split at h
    · next t ht =>
      have := splits_withArgument? h
      rwa [List.append_assoc, ← after?_eq_some_iff.1 ht, List.append_assoc, ← eq_of_gap] at this
    · cases h

/-- The marker at the beginning of a text. -/
def run (s : List Char) : Option (Reading Marker) :=
  match after? ifStart s with
  | some t => withArgument? ifStart ifOpen t
  | none =>
    match after? elseStart s with
    | some t => afterElse? t
    | none => (after? closeMark s).map fun rest => ⟨close, closeMark, rest⟩

theorem splits {s : List Char} {r : Reading Marker} (h : run s = some r) : r.Splits s := by
  unfold run at h
  split at h
  · next t ht => rw [after?_eq_some_iff.1 ht]; exact splits_withArgument? h
  · split at h
    · next t ht => rw [after?_eq_some_iff.1 ht]; exact splits_afterElse? h
    · obtain ⟨rest, hr, rfl⟩ := Option.map_eq_some_iff.1 h
      exact ⟨by simp [closeMark], after?_eq_some_iff.1 hr⟩

end Marker

/-- The rule that finds markers. -/
def markerRule : Recogniser Marker := ⟨Marker.run, Marker.splits⟩

end RecordTemplate.Template
