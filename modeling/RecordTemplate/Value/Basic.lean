/-
  RecordTemplate.Value.Basic

  The values that a record can hold, and their kinds.  Only scalars and lists of scalars
  have a text of their own; a mapping, an object or a term needs a property access or a
  filter first.
-/

import RecordTemplate.Calendar.DateTime
import RecordTemplate.Number.Decimal

namespace RecordTemplate

open RecordTemplate.Calendar RecordTemplate.Number

/-! ## Values -/

/-- A taxonomy term attached to a record: a category, a tag and the like. -/
structure Term where
  id : Int := 0
  name : String := ""
  slug : String := ""
  taxonomy : String := ""
  description : String := ""
  link : String := ""
  parent : Int := 0
  count : Int := 0
  deriving DecidableEq, Repr

/-- A value of a record. -/
inductive Value where
  | null
  | bool (b : Bool)
  | int (n : Int)
  | float (x : Binary64)
  | decimal (d : Decimal)
  | text (s : String)
  | date (d : Date)
  | dateTime (t : DateTime)
  | list (items : List Value)
  | tuple (items : List Value)
  | set (items : List Value)
  | bytes (bytes : List UInt8)
  | term (t : Term)
  /-- An object with named attributes. -/
  | object (attributes : List (String × Value))
  /-- A mapping with text keys, in the order in which the keys were added. -/
  | mapping (entries : List (String × Value))
  /-- A value of the host of another type; it has neither a text nor fields. -/
  | other (type : String)

instance : Inhabited Value := ⟨.null⟩

/-- Items under names, in the order in which the names were added. -/
abbrev Named (α : Type) := List (String × α)

/-- Sets the item under a name; a name that is new goes to the end. -/
def Named.set {α : Type} (items : Named α) (name : String) (a : α) : Named α :=
  if List.any items (·.1 == name) then
    List.map (fun e => if e.1 == name then (name, a) else e) items
  else items ++ [(name, a)]

namespace Named

variable {α : Type}

theorem lookup_replace (items : Named α) (name other : String) (a : α) :
    List.lookup other (List.map (fun e => if e.1 == name then (name, a) else e) items) =
      (List.lookup other items).map fun b => if other = name then a else b := by
  induction items with
  | nil => rfl
  | cons e items ih =>
    rw [List.map_cons, List.lookup_cons, List.lookup_cons, ih]
    by_cases hname : e.1 = name
    · simp only [hname, beq_self_eq_true, if_true]
      by_cases hother : other = name <;> simp [hother, beq_eq_false_iff_ne.2]
    · simp only [beq_eq_false_iff_ne.2 hname, Bool.false_eq_true, if_false]
      by_cases hother : other = e.1 <;> simp [hother, hname, beq_eq_false_iff_ne.2]

/-- Setting a name changes the item of this name only. -/
theorem lookup_set (items : Named α) (name other : String) (a : α) :
    List.lookup other (set items name a) =
      if other = name then some a else List.lookup other items := by
  unfold set
  split
  · next hany =>
    have hsome : (List.lookup name items).isSome := by
      simpa [List.lookup_isSome_iff, Bool.beq_comm] using hany
    rw [lookup_replace]
    by_cases hother : other = name
    · subst hother
      obtain ⟨b, hb⟩ := Option.isSome_iff_exists.1 hsome
      simp [hb]
    · simp [hother]
  · next hany =>
    have hnone : List.lookup name items = none := by
      rw [Bool.not_eq_true, List.any_eq_false] at hany
      refine List.lookup_eq_none_iff.2 fun e he => ?_
      exact bne_iff_ne.2 fun heq => hany e he (beq_iff_eq.2 heq.symm)
    rw [List.lookup_append]
    by_cases hother : other = name
    · rw [hother, hnone, if_pos rfl, Option.none_or]
      exact List.lookup_cons_self
    · have hlast : List.lookup other [(name, a)] = none := by
        rw [List.lookup_cons, beq_eq_false_iff_ne.2 hother]
        rfl
      rw [if_neg hother, hlast, Option.or_none]

end Named

/-- Values under names. -/
abbrev Entries := Named Value

namespace Entries

/-- The value of a name. -/
def value? (es : Entries) (name : String) : Option Value := List.lookup name es

/-- The value of a name, null if there is none. -/
def value (es : Entries) (name : String) : Value := (value? es name).getD .null

theorem value?_set (es : Entries) (name other : String) (v : Value) :
    value? (Named.set es name v) other = if other = name then some v else value? es other :=
  Named.lookup_set es name other v

def names (es : Entries) : List String := List.map (·.1) es

end Entries

/-! ## Kinds -/

/-- The kinds of values that rendering and filters tell apart. -/
inductive ValueKind where
  | scalar
  | null
  | listOfScalar
  | structured
  | composite
  deriving DecidableEq, Repr

def ValueKind.name : ValueKind → String
  | scalar => "scalar"
  | null => "null"
  | listOfScalar => "list_of_scalar"
  | structured => "structured"
  | composite => "composite"

namespace Value

/-- Values that have a text of their own. -/
def isScalar : Value → Bool
  | bool _ | int _ | float _ | decimal _ | text _ | date _ | dateTime _ => true
  | _ => false

def isNull : Value → Bool
  | null => true
  | _ => false

/-- The items of a list or a tuple. -/
def sequence? : Value → Option (List Value)
  | list vs | tuple vs => some vs
  | _ => none

def entries? : Value → Option Entries
  | mapping es => some es
  | _ => none

def term? : Value → Option Term
  | term t => some t
  | _ => none

/-- The kind of a value. -/
def kind : Value → ValueKind
  | null => .null
  | bool _ | int _ | float _ | decimal _ | text _ | date _ | dateTime _ => .scalar
  | list vs | tuple vs =>
    if vs.all fun v => v.isNull || v.isScalar then .listOfScalar else .composite
  | term _ | object _ | mapping _ => .structured
  | set _ | bytes _ | other _ => .composite

/-- Items that are left out of a list of several values. -/
def isEmptyItem : Value → Bool
  | null | bool false => true
  | text s => s == ""
  | list vs | tuple vs => vs.isEmpty
  | mapping es => es.isEmpty
  | _ => false

/-- A list or tuple whose first item is a term. -/
def isTermList (v : Value) : Bool :=
  match v.sequence? with
  | some (term _ :: _) => true
  | _ => false

/-- Whether a value is the text `s`. -/
def isText (v : Value) (s : String) : Bool :=
  match v with
  | text t => t == s
  | _ => false

/-- Whether a value counts as present: not null, no zero, not empty. -/
def isPresent : Value → Bool
  | null => false
  | bool b => b
  | int n => n ≠ 0
  | float (.finite _ m _) => m ≠ 0
  | float _ => true
  | decimal (.finite _ c _) => c ≠ 0
  | decimal _ => true
  | text s => s ≠ ""
  | list vs | tuple vs | set vs => !vs.isEmpty
  | bytes bs => !bs.isEmpty
  | mapping es => !es.isEmpty
  | date _ | dateTime _ | term _ | object _ | other _ => true

/-! ## Library items and attachments -/

/-- The wrapper around an item of the media library, or any other value, replaced by what it
    holds. -/
def unwrapped (v : Value) : Value :=
  match v with
  | mapping es =>
    let item := Entries.value es "value"
    if (Entries.value es "type").isText "media_library" ∧ !item.isNull then item else v
  | _ => v

/-- Whether a value is the record of a vector image. -/
def isVectorImage : Value → Bool
  | mapping es => (Entries.value es "mime_type").isText "image/svg+xml"
  | _ => false

/-- The identifier of an attachment record, null if it has none. -/
def attachmentId (es : Entries) : Value :=
  if (Entries.value es "ID").isNull then Entries.value es "id" else Entries.value es "ID"

/-- The type of a value as messages name it. -/
def typeName : Value → String
  | null => "NoneType"
  | bool _ => "bool"
  | int _ => "int"
  | float _ => "float"
  | decimal _ => "decimal.Decimal"
  | text _ => "str"
  | date _ => "datetime.date"
  | dateTime _ => "datetime.datetime"
  | list _ => "list"
  | tuple _ => "tuple"
  | set _ => "set"
  | bytes _ => "bytes"
  | term _ => "Term"
  | object _ => "object"
  | mapping _ => "dict"
  | other type => type

/-! ## Parts -/

/-- The failure to apply an operation of mappings or texts to a value of another type.  The
    attributes of an object are no operations. -/
def noOperation (v : Value) (name : String) : Failure :=
  match v with
  | object es =>
    match Entries.value? es name with
    | some w => .notCallable w.typeName
    | none => .noAttribute v.typeName name
  | v => .noAttribute v.typeName name

/-- The failure to ask a value that is no mapping for one of its entries. -/
def noEntries (v : Value) : Failure := v.noOperation "get"

/-- The items of a value one by one: the characters of a text, the names of a mapping. -/
def elements (v : Value) : Except Failure (List Value) :=
  match v with
  | list vs | tuple vs | set vs => .ok vs
  | text s => .ok (s.toList.map fun c => text (String.ofList [c]))
  | bytes bs => .ok (bs.map fun b => int b.toNat)
  | mapping es => .ok ((Entries.names es).map text)
  | v => .error (.notIterable v.typeName)

end Value
end RecordTemplate
