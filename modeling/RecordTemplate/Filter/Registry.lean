/-
  RecordTemplate.Filter.Registry

  The filters that tags can name.  Filters registered later hide earlier ones and the
  built-in ones of the same name.  A chain skips the filters that are unknown or fail, and
  goes on with the value as it was.
-/

import RecordTemplate.Filter.Date
import RecordTemplate.Filter.List
import RecordTemplate.Filter.Number
import RecordTemplate.Filter.Text
import RecordTemplate.Render.Diagnostic
import RecordTemplate.Template.Chain

namespace RecordTemplate

open RecordTemplate.Template

/-- All built-in filters. -/
def builtinFilters : List Filter :=
  Filter.textFilters ++ Filter.numberFilters ++ Filter.dateFilters ++ Filter.listFilters

/-- A filter under each of its names. -/
def Filter.entries (f : Filter) : List (String × Filter) :=
  (f.name :: f.aliases).map fun name => (name, f)

/-- A function of the host as a filter.  It is described by the first line of its
    documentation. -/
def Filter.ofFunction (name : String) (documentation : Option String)
    (f : Value → List String → Except Failure Value) : Filter where
  name := name
  description :=
    String.ofList ((Text.trim (documentation.getD "").toList).takeWhile (· ≠ '\n'))
  apply := fun _ v args => f v args

/-- Filters under names.  The first filter under a name counts, and registered filters come
    before built-in ones. -/
structure Registry where
  builtins : List (String × Filter)
  custom : List (String × Filter)

/-- A filter as the editor lists it. -/
structure FilterEntry where
  name : String
  args : List String
  description : String
  deriving DecidableEq, Repr

namespace Registry

/-- A registry of filters under their names. -/
def ofFilters (fs : List Filter) : Registry := ⟨(fs.flatMap Filter.entries).reverse, []⟩

def empty : Registry := ofFilters []

/-- A registry of the built-in filters. -/
def builtin : Registry := ofFilters builtinFilters

/-! ## Registration -/

/-- Registers a filter under all its names. -/
def register (r : Registry) (f : Filter) : Registry :=
  { r with custom := f.entries.reverse ++ r.custom }

/-- Registers a filter under its name only. -/
def registerNamed (r : Registry) (f : Filter) : Registry :=
  { r with custom := (f.name, f) :: r.custom }

/-- The record of a registration in the log. -/
def registrationRecord (name : String) : LogRecord :=
  ⟨.info, "Custom filter '" ++ name ++ "' registered."⟩

/-! ## Look-up -/

def get? (r : Registry) (name : String) : Option Filter :=
  (r.custom.lookup name).or (r.builtins.lookup name)

/-- The filter of a name, which must be known. -/
def get (r : Registry) (name : String) : Except Failure Filter :=
  match r.get? name with
  | some f => .ok f
  | none => .error (.unknownFilter name)

/-- Whether a name is registered or built in. -/
def has (r : Registry) (name : String) : Bool :=
  r.custom.any (·.1 == name) || r.builtins.any (·.1 == name)

theorem any_eq_isSome_lookup {α : Type} (items : List (String × α)) (name : String) :
    items.any (·.1 == name) = (items.lookup name).isSome := by
  induction items with
  | nil => rfl
  | cons e items ih =>
    rw [List.any_cons, List.lookup_cons, ih, BEq.comm]
    cases name == e.1 <;> rfl

/-- The names that are known are those under which a filter is found. -/
theorem has_eq_isSome_get? (r : Registry) (name : String) :
    r.has name = (r.get? name).isSome := by
  unfold has get?
  rw [any_eq_isSome_lookup, any_eq_isSome_lookup, Option.isSome_or]

/-- Inserts a name into a strictly increasing list, unless it is there. -/
def insertName (name : String) : List String → List String
  | [] => [name]
  | n :: ns =>
    if name < n then name :: n :: ns
    else if name = n then n :: ns
    else n :: insertName name ns

/-- The names of all filters in increasing order. -/
def names (r : Registry) : List String :=
  ((r.custom ++ r.builtins).map (·.1)).foldr insertName []

/-- The filters as the editor lists them, one entry for every name. -/
def describe (r : Registry) : List FilterEntry :=
  r.names.filterMap fun name => (r.get? name).map fun f => ⟨name, f.args, f.description⟩

end Registry

/-! ## Chains -/

/-- Why a filter of a chain was skipped. -/
inductive ChainFault where
  | unknown (name : String)
  | failed (name message : String)
  deriving DecidableEq, Repr

def ChainFault.diagnostic : ChainFault → Diagnostic
  | unknown name =>
    ⟨.warning, "unknown_filter", "Unknown filter applied: '" ++ name ++ "'."⟩
  | failed name message =>
    ⟨.warning, "filter_failed", "Filter '" ++ name ++ "' failed: " ++ message⟩

namespace Registry

/-- One filter of a chain: the new value, or the fault for which it is skipped. -/
def step (r : Registry) (context : FilterContext) (v : Value) (i : Invocation) :
    Except ChainFault Value :=
  match r.get? i.name with
  | none => .error (.unknown i.name)
  | some f =>
    match f.apply context v i.args with
    | .ok w => .ok w
    | .error e => .error (.failed i.name e.message)

/-- A chain of filters from left to right, with the faults of those that were skipped. -/
def applyChain (r : Registry) (context : FilterContext) :
    Value → List Invocation → Value × List ChainFault
  | v, [] => (v, [])
  | v, i :: is =>
    match r.step context v i with
    | .ok w => r.applyChain context w is
    -- the value goes on as it was
    | .error fault =>
      let result := r.applyChain context v is
      (result.1, fault :: result.2)

/-- How many filters of a chain are known. -/
def knownCount (r : Registry) (is : List Invocation) : Nat := is.countP fun i => r.has i.name

end Registry
end RecordTemplate
