/-
  RecordTemplate.Value.Literal

  Values as literals: the form in which a value appears inside a list, in a message or in
  the key of a cache entry.
-/

import RecordTemplate.Number.Shortest
import RecordTemplate.Value.Basic

namespace RecordTemplate

open RecordTemplate.Calendar RecordTemplate.Number RecordTemplate.Text

/-! ## Parts -/

def natText (n : Nat) : String := String.ofList (digits n)
def intString (n : Int) : String := String.ofList (intText n)
def quotedString (s : String) : String := String.ofList (quoted s.toList)

/-- Texts with a comma and a space between them. -/
def commaSeparated (items : List String) : String := String.intercalate ", " items

/-- A number of seconds and microseconds as a distance in whole days and the rest. -/
def durationLiteral (micros : Int) : String :=
  let days := Int.fdiv micros dayMicros
  let rest := (Int.fmod micros dayMicros).toNat
  let parts := [("days", days), ("seconds", (rest / 1000000 : Nat)),
    ("microseconds", (rest % 1000000 : Nat))].filter fun p => p.2 ≠ 0
  "datetime.timedelta(" ++
    (if parts.isEmpty then "0"
      else commaSeparated (parts.map fun p => p.1 ++ "=" ++ intString p.2)) ++ ")"

def zoneLiteral (z : Zone) : String :=
  if z.offset = 0 then "datetime.timezone.utc"
  else "datetime.timezone(" ++ durationLiteral z.offset ++ ")"

def dateFields (d : Date) : List String := [natText d.year, natText d.month, natText d.day]

/-- Hour and minute, then second and microsecond as far as they are needed. -/
def timeFields (t : Time) : List String :=
  [natText t.hour, natText t.minute] ++
    (if t.second = 0 ∧ t.microsecond = 0 then [] else [natText t.second]) ++
    (if t.microsecond = 0 then [] else [natText t.microsecond])

/-- One byte of a literal delimited by `quote`. -/
def byteLiteral (quote : Char) (b : UInt8) : List Char :=
  let c := Char.ofNat b.toNat
  if c = quote ∨ c = '\\' then ['\\', c]
  else if c = '\t' then ['\\', 't']
  else if c = '\n' then ['\\', 'n']
  else if c = '\r' then ['\\', 'r']
  else if 0x20 ≤ b ∧ b < 0x7F then [c]
  else '\\' :: 'x' :: hex 2 b.toNat

def bytesLiteral (bs : List UInt8) : String :=
  let has (c : Char) := bs.any fun b => b.toNat == c.toNat
  let quote := if has '\'' && !has '"' then '"' else '\''
  String.ofList ('b' :: quote :: bs.flatMap (byteLiteral quote) ++ [quote])

/-- The attributes of a term as values. -/
def Term.attributes (t : Term) : Entries :=
  [("term_id", .int t.id), ("name", .text t.name), ("slug", .text t.slug),
    ("taxonomy", .text t.taxonomy), ("description", .text t.description),
    ("link", .text t.link), ("parent", .int t.parent), ("count", .int t.count)]

/-- The attribute of a term with a given name. -/
def Term.attribute? (t : Term) (name : String) : Option Value := Entries.value? t.attributes name

/-- A number or a text as a literal. -/
def simpleLiteral : Value → String
  | .int n => intString n
  | .text s => quotedString s
  | _ => ""

def Term.literal (t : Term) : String :=
  "Term(" ++ commaSeparated (t.attributes.map fun e => e.1 ++ "=" ++ simpleLiteral e.2) ++ ")"

/-! ## Literals -/

mutual

/-- A value as a literal. -/
def Value.literal : Value → String
  | .null => "None"
  | .bool b => if b then "True" else "False"
  | .int n => intString n
  | .float x => String.ofList x.text
  | .decimal d => "Decimal('" ++ String.ofList d.text ++ "')"
  | .text s => quotedString s
  | .date d => "datetime.date(" ++ commaSeparated (dateFields d) ++ ")"
  | .dateTime t =>
    "datetime.datetime(" ++
      commaSeparated (dateFields t.date ++ timeFields t.time ++
        (match t.zone with | some z => ["tzinfo=" ++ zoneLiteral z] | none => [])) ++ ")"
  | .list vs => "[" ++ commaSeparated (literals vs) ++ "]"
  | .tuple vs =>
    match vs with
    | [v] => "(" ++ v.literal ++ ",)"
    | vs => "(" ++ commaSeparated (literals vs) ++ ")"
  | .set vs => if vs.isEmpty then "set()" else "\x7b" ++ commaSeparated (literals vs) ++ "\x7d"
  | .bytes bs => bytesLiteral bs
  | .term t => t.literal
  | .object es => "object(" ++ commaSeparated (entryLiterals es) ++ ")"
  | .mapping es => "\x7b" ++ commaSeparated (entryLiterals es) ++ "\x7d"
  | .other type => "<" ++ type ++ ">"

def literals : List Value → List String
  | [] => []
  | v :: vs => v.literal :: literals vs

def entryLiterals : List (String × Value) → List String
  | [] => []
  | (name, v) :: es => (quotedString name ++ ": " ++ v.literal) :: entryLiterals es

end

/-- A value as a text of its own: a literal, except that texts stand without quotes and
    decimals and dates in their plain form. -/
def Value.display : Value → String
  | .text s => s
  | .decimal d => String.ofList d.text
  | .date d => String.ofList d.isoText
  | .dateTime t => String.ofList (t.isoText ' ')
  | v => v.literal

end RecordTemplate
