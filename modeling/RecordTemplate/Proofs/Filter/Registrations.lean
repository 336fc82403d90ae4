/-
  RecordTemplate.Proofs.Filter.Registrations

  Runs of registrations.  Whether a filter comes as an object with aliases or as a function under
  one name, registering it puts it before all that its names have meant so far, so after a run every
  name means what the last call that registered it gave to it (`get?_registeredAll`).

  All that a registry tells about its names is read off the same two tables.  The names that it
  lists are those under which it finds a filter, every name once and in order, and the editor is
  shown the filter that is found (`registrations_agree`).  The table of built-in filters, which
  registries share, is read only.
-/

import Mathlib.Data.List.Forall2
import Mathlib.Data.String.Basic
import Mathlib.Tactic.Common
import RecordTemplate.Filter.Registry

namespace RecordTemplate

/-! ## Calls -/

/-- A call that registers a filter. -/
inductive Registration where
  /-- A filter under its name and its aliases. -/
  | object (f : Filter)
  /-- A function of the host with its documentation under a name. -/
  | function (name : String) (documentation : Option String)
      (f : Value → List String → Except Failure Value)

namespace Registration

/-- The names that a call registers. -/
def names : Registration → List String
  | object f => f.name :: f.aliases
  | function name _ _ => [name]

def filter : Registration → Filter
  | object f => f
  | function name documentation f => .ofFunction name documentation f

def registers (c : Registration) (name : String) : Bool := c.names.contains name

end Registration

namespace Registry

variable {r : Registry} {name : String}

def registered (r : Registry) : Registration → Registry
  | .object f => r.register f
  | .function name documentation f => r.registerNamed (.ofFunction name documentation f)

/-- A registry after calls in their order. -/
def registeredAll (r : Registry) (calls : List Registration) : Registry :=
  calls.foldl registered r

/-! ## The meaning of a name -/

/-- What a call does to a registry: its filter stands under all its names before the others. -/
theorem registered_eq (r : Registry) (c : Registration) :
    r.registered c =
      ⟨r.builtins, (c.names.reverse.map fun name => (name, c.filter)) ++ r.custom⟩ := by
  cases c with
  | object f =>
    show (⟨r.builtins, f.entries.reverse ++ r.custom⟩ : Registry) = _
    rw [Filter.entries, ← List.map_reverse]
    rfl
  | function name documentation f => rfl

theorem lookup_map_const {names : List String} (f : Filter) :
    (names.map fun name => (name, f)).lookup name = if names.contains name then some f else none := by
  induction names with
  | nil => rfl
  | cons n names ih =>
    rw [List.map_cons, List.lookup_cons, List.contains_cons, ih]
    cases name == n <;> rfl

theorem get?_registered (r : Registry) (c : Registration) (name : String) :
    (r.registered c).get? name = if c.registers name then some c.filter else r.get? name := by
  have hnames : c.names.reverse.contains name = c.registers name := by
    rw [Registration.registers, List.contains_reverse]
  rw [registered_eq]
  unfold get?
  rw [List.lookup_append, lookup_map_const, hnames]
  cases c.registers name <;> rfl

/-- A name means what the last call that registered it gave to it, and what it meant before if
    there is no such call. -/
theorem get?_registeredAll (r : Registry) (calls : List Registration) (name : String) :
    (r.registeredAll calls).get? name =
      ((calls.filter (·.registers name)).getLast?.map Registration.filter).or (r.get? name) := by
  induction calls generalizing r with
  | nil => rfl
  | cons c calls ih =>
    have hstep : r.registeredAll (c :: calls) = (r.registered c).registeredAll calls := rfl
    have hcalls : (c :: calls).filter (·.registers name) =
        if c.registers name then c :: calls.filter (·.registers name)
        else calls.filter (·.registers name) := List.filter_cons
    rw [hstep, ih, get?_registered, hcalls]
    cases c.registers name with
    | false => rfl
    | true =>
      -- the last of the calls behind this one hides it
      rw [if_pos rfl, if_pos rfl, List.getLast?_cons]
      cases (calls.filter (·.registers name)).getLast? <;> rfl

theorem builtins_registeredAll (r : Registry) (calls : List Registration) :
    (r.registeredAll calls).builtins = r.builtins := by
  induction calls generalizing r with
  | nil => rfl
  | cons c calls ih =>
    have hstep : r.registeredAll (c :: calls) = (r.registered c).registeredAll calls := rfl
    rw [hstep, ih, registered_eq]

/-! ## The names of a registry -/

theorem mem_insertName {n m : String} {ns : List String} : n ∈ insertName m ns ↔ n = m ∨ n ∈ ns := by
  induction ns with
  | nil => exact List.mem_cons
  | cons k ns ih =>
    unfold insertName
    split
    · exact List.mem_cons
    · split
      · next hne heq =>
        subst heq
        rw [List.mem_cons, ← or_assoc, or_self]
      · rw [List.mem_cons, List.mem_cons, ih]
        exact or_left_comm

/-- A list in strictly increasing order stays in it. -/
theorem pairwise_insertName {m : String} {ns : List String} (h : ns.Pairwise (· < ·)) :
    (insertName m ns).Pairwise (· < ·) := by
  induction ns with
  | nil => exact List.pairwise_singleton _ m
  | cons k ns ih =>
    obtain ⟨hk, hns⟩ := List.pairwise_cons.1 h
    unfold insertName
    split
    · next hlt =>
      refine List.pairwise_cons.2 ⟨?_, h⟩
      intro n hn
      rcases List.mem_cons.1 hn with rfl | hn
      · exact hlt
      · exact lt_trans hlt (hk n hn)
    · next hge =>
      split
      · exact h
      · next hne =>
        have hlt : k < m := lt_of_le_of_ne (not_lt.1 hge) (Ne.symm hne)
        refine List.pairwise_cons.2 ⟨?_, ih hns⟩
        intro n hn
        rcases mem_insertName.1 hn with rfl | hn
        · exact hlt
        · exact hk n hn

theorem pairwise_names (r : Registry) : r.names.Pairwise (· < ·) := by
  unfold names
  induction (r.custom ++ r.builtins).map (·.1) with
  | nil => exact List.Pairwise.nil
  | cons m ns ih => exact pairwise_insertName ih

/-- The names in the list are those that are known. -/
theorem mem_names_iff (r : Registry) (name : String) : name ∈ r.names ↔ r.has name = true := by
  have hmem : ∀ ns : List String, name ∈ ns.foldr insertName [] ↔ name ∈ ns := by
    intro ns
    induction ns with
    | nil => rfl
    | cons m ns ih => rw [List.foldr_cons, mem_insertName, ih, List.mem_cons]
  unfold names has
  rw [hmem]
  simp only [List.map_append, List.mem_append, List.mem_map, Bool.or_eq_true, List.any_eq_true,
    beq_iff_eq]

/-! ## What the editor is shown -/

/-- An entry of a name shows the filter that is found under it. -/
def Shows (r : Registry) (e : FilterEntry) (name : String) : Prop :=
  e.name = name ∧ ∃ f, r.get? name = some f ∧ e.args = f.args ∧ e.description = f.description

theorem forall₂_describe (r : Registry) : List.Forall₂ r.Shows r.describe r.names := by
  have hknown : ∀ name ∈ r.names, ∃ f, r.get? name = some f := by
    intro name hname
    rw [mem_names_iff, has_eq_isSome_get?] at hname
    exact Option.isSome_iff_exists.1 hname
  unfold describe
  revert hknown
  induction r.names with
  | nil => exact fun _ => .nil
  | cons name names ih =>
    intro hknown
    obtain ⟨f, hf⟩ := hknown name List.mem_cons_self
    rw [List.filterMap_cons_some (by rw [hf]; rfl)]
    exact .cons ⟨rfl, f, hf, rfl, rfl⟩ (ih fun n hn => hknown n (List.mem_cons_of_mem _ hn))

end Registry

/-! ## Registries that share the built-in filters -/

/-- Registries over one table of built-in filters, each with the filters registered at it. -/
structure Registries where
  builtins : List (String × Filter)
  customs : List (List (String × Filter))

namespace Registries

/-- A registry as those who use it see it. -/
def view? (s : Registries) (i : Nat) : Option Registry :=
  s.customs[i]?.map fun custom => ⟨s.builtins, custom⟩

/-- The registries after a call at one of them, which hands back all that it can reach. -/
def registered (s : Registries) (k : Nat) (c : Registration) : Registries :=
  match s.view? k with
  | none => s
  | some r => ⟨(r.registered c).builtins, s.customs.set k (r.registered c).custom⟩

def registeredAll (s : Registries) (k : Nat) (calls : List Registration) : Registries :=
  calls.foldl (fun s c => s.registered k c) s

/-- A call at a registry leaves the built-in filters and all other registries as they are. -/
theorem view?_registered (s : Registries) (k : Nat) (c : Registration) :
    (s.registered k c).builtins = s.builtins ∧ ∀ i, (s.registered k c).view? i =
      if i = k then (s.view? k).map (·.registered c) else s.view? i := by
  unfold registered
  cases hview : s.view? k with
  | none =>
    dsimp only
    refine ⟨rfl, fun i => ?_⟩
    by_cases hi : i = k
    · rw [if_pos hi, hi, hview, Option.map_none]
    · rw [if_neg hi]
  | some r =>
    obtain ⟨custom, hcustom, rfl⟩ := Option.map_eq_some_iff.1 hview
    have hbuiltins : ((⟨s.builtins, custom⟩ : Registry).registered c).builtins = s.builtins := by
      rw [Registry.registered_eq]
    refine ⟨hbuiltins, fun i => ?_⟩
    obtain ⟨hlt, -⟩ := List.getElem?_eq_some_iff.1 hcustom
    unfold view?
    dsimp only
    rw [hbuiltins]
    split
    · next hi =>
      subst hi
      rw [List.getElem?_set_self hlt, Option.map_some, Option.map_some, Registry.registered_eq]
    · next hi => rw [List.getElem?_set_ne (Ne.symm hi)]

theorem view?_registeredAll (s : Registries) (k : Nat) (calls : List Registration) :
    (s.registeredAll k calls).builtins = s.builtins ∧ ∀ i, (s.registeredAll k calls).view? i =
      if i = k then (s.view? k).map (·.registeredAll calls) else s.view? i := by
  induction calls generalizing s with
  | nil =>
    refine ⟨rfl, fun i => ?_⟩
    by_cases hi : i = k
    · rw [if_pos hi, hi]
      exact Option.map_id'.symm
    · rw [if_neg hi]
      rfl
  | cons c calls ih =>
    have hstep : s.registeredAll k (c :: calls) = (s.registered k c).registeredAll k calls := rfl
    obtain ⟨hbuiltins, hviews⟩ := view?_registered s k c
    obtain ⟨hbuiltins', hviews'⟩ := ih (s.registered k c)
    rw [hstep]
    refine ⟨hbuiltins'.trans hbuiltins, fun i => ?_⟩
    rw [hviews', hviews, hviews, if_pos rfl, Option.map_map]
    split
    · rfl
    · rfl

end Registries

namespace Registry

/-- After any run of calls at a registry over any table of built-in filters, a name means what the
    last call that registered it gave to it, and else what it means in the table.  The names that
    are known, that mean a filter and that are listed are the same, they are listed once and in
    order, and there is one entry for each, in their order, which shows the filter that it means.
    The table stays as it is, and so do the other registries over it. -/
theorem registrations_agree (builtins : List (String × Filter)) (calls : List Registration)
    (customs : List (List (String × Filter))) (k : Nat) :
    let r := (Registry.mk builtins []).registeredAll calls
    let s := (Registries.mk builtins customs).registeredAll k calls
    (∀ name, r.get? name =
        ((calls.filter (·.registers name)).getLast?.map Registration.filter).or
          (builtins.lookup name) ∧
      (r.has name = true ↔ (r.get? name).isSome) ∧
      (name ∈ r.names ↔ (r.get? name).isSome)) ∧
    r.names.Pairwise (· < ·) ∧
    List.Forall₂ r.Shows r.describe r.names ∧
    r.builtins = builtins ∧ s.builtins = builtins ∧
    ∀ i, s.view? i = if i = k then ((Registries.mk builtins customs).view? k).map
      (·.registeredAll calls) else (Registries.mk builtins customs).view? i := by
  intro r s
  have hempty : ∀ name, (Registry.mk builtins []).get? name = builtins.lookup name := fun _ => rfl
  obtain ⟨hshared, hviews⟩ := (Registries.mk builtins customs).view?_registeredAll k calls
  refine ⟨fun name => ⟨?_, ?_, ?_⟩, r.pairwise_names, r.forall₂_describe,
    builtins_registeredAll _ calls, hshared, hviews⟩
  · rw [← hempty]
    exact get?_registeredAll _ calls name
  · rw [has_eq_isSome_get?]
  · rw [mem_names_iff, has_eq_isSome_get?]

end Registry
end RecordTemplate
