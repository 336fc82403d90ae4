/-
  RecordTemplate.Cache.Payload

  Settings as JSON in one fixed form, from which the keys of cached output are made: members
  in the order of their names, everything in ASCII.  Values that JSON does not have are
  written as texts.
-/

import RecordTemplate.Value.Literal

namespace RecordTemplate.Cache

open RecordTemplate.Number RecordTemplate.Text

/-! ## Texts -/

/-- A number of sixteen bits as an escape. -/
def unitEscape (u : Nat) : List Char := '\\' :: 'u' :: hex 4 u

/-- One character of a JSON text; characters beyond sixteen bits take two escapes. -/
def jsonChar (c : Char) : List Char :=
  let n := c.toNat
  if c = '"' ∨ c = '\\' then ['\\', c]
  else if c = '\n' then ['\\', 'n']
  else if c = '\r' then ['\\', 'r']
  else if c = '\t' then ['\\', 't']
  else if n = 0xC then ['\\', 'f']
  else if n = 0x8 then ['\\', 'b']
  else if 0x20 ≤ n ∧ n < 0x7F then [c]
  else if n < 0x10000 then unitEscape n
  else
    unitEscape (0xD800 + (n - 0x10000) / 0x400) ++ unitEscape (0xDC00 + (n - 0x10000) % 0x400)

def jsonText (s : String) : String :=
  String.ofList ('"' :: s.toList.flatMap jsonChar ++ ['"'])

/-! ## Values -/

/-- A number in double precision; JSON has names for those that are not finite. -/
def jsonNumber : Binary64 → String
  | .nan => "NaN"
  | .infinite negative => if negative then "-Infinity" else "Infinity"
  | x => String.ofList x.text

/-- Members in the order of their names. -/
def sortMembers (members : List (String × String)) : List (String × String) :=
  members.mergeSort fun a b => decide (a.1 ≤ b.1)

def jsonArray (items : List String) : String := "[" ++ commaSeparated items ++ "]"

def jsonObject (members : List (String × String)) : String :=
  "\x7b" ++ commaSeparated ((sortMembers members).map fun m => jsonText m.1 ++ ": " ++ m.2) ++
    "\x7d"

mutual

/-- A value as JSON. -/
def jsonOf : Value → String
  | .null => "null"
  | .bool b => if b then "true" else "false"
  | .int n => intString n
  | .float x => jsonNumber x
  | .text s => jsonText s
  | .list vs | .tuple vs => jsonArray (jsonItems vs)
  | .mapping es => jsonObject (jsonMembers es)
  | .decimal d => jsonText (String.ofList d.text)
  | .date d => jsonText (String.ofList d.isoText)
  | .dateTime t => jsonText (String.ofList (t.isoText ' '))
  | .set vs => jsonText (Value.set vs).literal
  | .bytes bs => jsonText (bytesLiteral bs)
  | .term t => jsonText t.literal
  | .object es => jsonText (Value.object es).literal
  | .other type => jsonText (Value.other type).literal

def jsonItems : List Value → List String
  | [] => []
  | v :: vs => jsonOf v :: jsonItems vs

def jsonMembers : List (String × Value) → List (String × String)
  | [] => []
  | (name, v) :: es => (name, jsonOf v) :: jsonMembers es

end

/-- The payload of the settings of a widget; absent or empty ones are an empty mapping. -/
def payload (settings : Value) : String :=
  jsonOf (if settings.isPresent then settings else .mapping [])

end RecordTemplate.Cache
