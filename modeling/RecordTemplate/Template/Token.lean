/-
  RecordTemplate.Template.Token

  Tokens of a template: markers, fallbacks and tags, in this order of priority, and the text
  between them.  The values of the tokens put together are the template.
-/

import RecordTemplate.Template.Fallback
import RecordTemplate.Template.Marker
import RecordTemplate.Text.Quoted
import RecordTemplate.Number.Digits

namespace RecordTemplate.Template

open RecordTemplate.Text

/-! ## Constructs -/

/-- A construct of a template. -/
inductive Construct where
  | marker (m : Marker)
  | fallback (f : FallbackForm)
  | tag (t : TagForm)
  deriving DecidableEq, Repr

namespace Construct

/-- The construct at the beginning of a text: a marker, else a fallback, else a tag. -/
def run (ks : Keywords) (s : List Char) : Option (Reading Construct) :=
  match markerRule.run s with
  | some r => some (r.map marker)
  | none =>
    match (fallbackRule ks).run s with
    | some r => some (r.map fallback)
    | none => ((tagRule ks).run s).map (Reading.map tag)

theorem splits {ks : Keywords} {s : List Char} {r : Reading Construct}
    (h : run ks s = some r) : r.Splits s := by
  unfold run at h
  split at h
  · next hm => cases h; exact markerRule.splits hm
  · split at h
    · next hf => cases h; exact (fallbackRule ks).splits hf
    · obtain ⟨t, ht, rfl⟩ := Option.map_eq_some_iff.1 h
      exact (tagRule ks).splits ht

end Construct

/-- The rule that finds constructs. -/
def constructRule (ks : Keywords) : Recogniser Construct :=
  ⟨Construct.run ks, Construct.splits⟩

/-! ## Tokens -/

/-- The kinds of tokens. -/
inductive TokenKind where
  | text
  | marker (m : Marker)
  | fallback
  | tag
  deriving DecidableEq, Repr

namespace TokenKind

def name : TokenKind → String
  | text => "TEXT"
  | marker (.ifOpen _) => "IF_OPEN"
  | marker (.elseIf _) => "ELSE_IF"
  | marker .otherwise => "ELSE"
  | marker .close => "IF_CLOSE"
  | fallback => "FALLBACK"
  | tag => "TAG"

def ofConstruct : Construct → TokenKind
  | .marker m => marker m
  | .fallback _ => fallback
  | .tag _ => tag

end TokenKind

/-- A piece of a template, with its place. -/
structure Token where
  kind : TokenKind
  value : List Char
  position : Nat
  deriving DecidableEq, Repr

namespace Token

/-- The place just after a token. -/
def stop (t : Token) : Nat := t.position + t.value.length

def isMarker (t : Token) : Bool :=
  match t.kind with
  | .marker _ => true
  | _ => false

/-- The condition of a marker that has one. -/
def argument? (t : Token) : Option (List Char) :=
  match t.kind with
  | .marker m => m.condition?
  | _ => none

/-- A token as messages show it. -/
def literal (t : Token) : List Char :=
  "Token(".toList ++ t.kind.name.toList ++ ", ".toList ++ quoted t.value ++ ", pos=".toList ++
    Number.digits t.position ++ ")".toList

/-- A text token, unless text is left out or the token would be empty. -/
def ofText (withText : Bool) (s : List Char) (position : Nat) : List Token :=
  if withText && !s.isEmpty then [⟨.text, s, position⟩] else []

/-- The tokens of a scan that starts at a position, with the text between constructs or without
    it. -/
def ofScan {α : Type} (kind : α → TokenKind) (withText : Bool) (tail : List Char) :
    Nat → List (Found α) → List Token
  | position, [] => ofText withText tail position
  | position, f :: fs =>
    let start := position + f.lead.length
    ofText withText f.lead position ++ ⟨kind f.item, f.text, start⟩ ::
      ofScan kind withText tail (start + f.text.length) fs

def isText (t : Token) : Bool := t.kind == .text

end Token

/-- The tokens of a template. -/
def tokens (ks : Keywords) (text : List Char) : List Token :=
  let s := (constructRule ks).scan text
  Token.ofScan TokenKind.ofConstruct true s.tail 0 s.found

/-- The tokens of a template without the text between constructs. -/
def constructTokens (ks : Keywords) (text : List Char) : List Token :=
  let s := (constructRule ks).scan text
  Token.ofScan TokenKind.ofConstruct false s.tail 0 s.found

/-- The markers of a text, also those inside tags and fallbacks. -/
def markerTokens (text : List Char) : List Token :=
  let s := markerRule.scan text
  Token.ofScan TokenKind.marker false s.tail 0 s.found

end RecordTemplate.Template
