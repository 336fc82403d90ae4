/-
  RecordTemplate.Proofs.Filter.Items

  Filters on lists of texts hand their items on in a text, which the next filter splits again.
  An item is a text that is not blank and in which no separator stands (`IsItem`): items are
  split where they were joined, also when they end in a comma or begin with a space
  (`Value.splitItems_intercalate`).

    * `Filter.Reworks` — what a filter that gives a list again does to the items.
    * `Filter.Computes` — what a filter that leaves the list answers for the items.
    * `Registry.applyChain_keeps_items` — a chain comes to its list operations on the items, and
      does not tell a list from the text that the list is shown as.
-/

import Mathlib.Data.List.Sort
import Mathlib.Data.String.Basic
import RecordTemplate.Proofs.Filter.Chains
import RecordTemplate.Proofs.Filter.Failures
import RecordTemplate.Proofs.Text.Search

namespace RecordTemplate

open RecordTemplate.Number RecordTemplate.Template RecordTemplate.Text

/-! ## Items -/

/-- A text that stays one item among others. -/
structure IsItem (s : String) : Prop where
  not_blank : trim s.toList ≠ []
  not_infix : ¬ listSeparator.toList <:+: s.toList

namespace Value

/-- A text, or a list or tuple of scalars and nulls of which those that are not empty show an
    item each. -/
inductive IsItemised : Value → Prop where
  | text (s : String) : IsItemised (.text s)
  | sequence {v : Value} {vs : List Value} (hsequence : v.sequence? = some vs)
      (hkinds : ∀ w ∈ vs, w.isNull = true ∨ w.isScalar = true)
      (hitems : ∀ w ∈ vs, w.isEmptyItem = false → IsItem w.scalarText) : IsItemised v

theorem splitItems_empty : splitItems "" = [] := by
  have hsplit : splitOn listSeparator.toList "".toList = [[]] :=
    splitOn_of_not_infix (by decide) (by decide)
  rw [splitItems, hsplit]
  rfl

/-- Items are split where they were joined. -/
theorem splitItems_intercalate {items : List String} (h : ∀ s ∈ items, IsItem s) :
    splitItems (listSeparator.intercalate items) = items := by
  obtain rfl | hne := eq_or_ne items []
  · exact splitItems_empty
  have hparts : ∀ part ∈ items.map String.toList, EndsAt listSeparator.toList part := by
    intro part hpart
    obtain ⟨s, hs, rfl⟩ := List.mem_map.1 hpart
    have hitem := h s hs
    exact endsAt_pair (by decide) hitem.not_infix
  have hsplit := splitOn_joinWith_of_endsAt (by decide) (by simpa using hne) hparts
  have hfilled : ∀ part ∈ items.map String.toList, decide (trim part ≠ []) = true := by
    intro part hpart
    obtain ⟨s, hs, rfl⟩ := List.mem_map.1 hpart
    exact decide_eq_true (h s hs).not_blank
  rw [splitItems, String.toList_intercalate, ← joinWith_eq_intercalate, hsplit,
    List.filter_eq_self.2 hfilled, List.map_map]
  simp

/-- What a text is split into are items. -/
theorem isItem_of_mem_splitItems {s item : String} (h : item ∈ splitItems s) : IsItem item := by
  obtain ⟨part, hpart, rfl⟩ := List.mem_map.1 h
  obtain ⟨hmem, hfilled⟩ := List.mem_filter.1 hpart
  refine ⟨?_, ?_⟩ <;> rw [String.toList_ofList]
  · exact of_decide_eq_true hfilled
  · exact not_infix_of_mem_splitOn (by decide) hmem

theorem toItems_text (s : String) : (Value.text s).toItems = splitItems s := by
  have hrender : (Value.text s).render = s := rfl
  have hitems : (Value.text s).toItems = if s = "" then [] else splitItems s := by
    rw [toItems, hrender]
    all_goals simp
  rw [hitems]
  split
  · next hempty => rw [hempty, splitItems_empty]
  · rfl

/-- A text of items has these items. -/
theorem toItems_intercalate {items : List String} (h : ∀ s ∈ items, IsItem s) :
    (Value.text (listSeparator.intercalate items)).toItems = items := by
  rw [toItems_text, splitItems_intercalate h]

theorem render_eq_scalarText {v : Value} (h : v.isNull = true ∨ v.isScalar = true) :
    v.render = v.scalarText := by
  cases v <;> simp_all [render, kind, isNull, isScalar, scalarText]

theorem toItems_of_sequence? {v : Value} {vs : List Value} (h : v.sequence? = some vs) :
    v.toItems = ((vs.filter fun w => !w.isEmptyItem).map render).filter (· ≠ "") := by
  cases v <;> cases h <;> rfl

namespace IsItemised

variable {v : Value}

/-- The items of a list are the texts of what is not empty in it. -/
theorem toItems_sequence {vs : List Value} (h : v.IsItemised) (hvs : v.sequence? = some vs) :
    v.toItems = (vs.filter fun w => !w.isEmptyItem).map scalarText ∧
      ∀ s ∈ v.toItems, IsItem s := by
  cases h with
  | text s => cases hvs
  | @sequence _ ws hsequence hkinds hitems =>
    obtain rfl : ws = vs := Option.some.inj (hsequence.symm.trans hvs)
    have hrender : ((ws.filter fun w => !w.isEmptyItem).map render) =
        (ws.filter fun w => !w.isEmptyItem).map scalarText := by
      refine List.map_congr_left fun w hw => ?_
      exact render_eq_scalarText (hkinds w (List.mem_of_mem_filter hw))
    have hshown : ∀ s ∈ (ws.filter fun w => !w.isEmptyItem).map scalarText, IsItem s := by
      intro s hs
      obtain ⟨w, hw, rfl⟩ := List.mem_map.1 hs
      obtain ⟨hmem, hfull⟩ := List.mem_filter.1 hw
      exact hitems w hmem (by simpa using hfull)
    -- an item is no empty text, so nothing more is left out
    have hfilled : ∀ s ∈ (ws.filter fun w => !w.isEmptyItem).map scalarText,
        decide (s ≠ "") = true := by
      intro s hs
      refine decide_eq_true ?_
      rintro rfl
      exact (hshown _ hs).not_blank rfl
    have hitems' : v.toItems = (ws.filter fun w => !w.isEmptyItem).map scalarText := by
      rw [toItems_of_sequence? hsequence, hrender, List.filter_eq_self.2 hfilled]
    exact ⟨hitems', hitems' ▸ hshown⟩

theorem isItem (h : v.IsItemised) : ∀ s ∈ v.toItems, IsItem s := by
  cases h with
  | text s =>
    rw [toItems_text]
    exact fun item => isItem_of_mem_splitItems
  | sequence hsequence hkinds hitems =>
    exact (toItems_sequence (.sequence hsequence hkinds hitems) hsequence).2

/-- A list is shown as its items with separators between them. -/
theorem render_eq_joinItems {vs : List Value} (h : v.IsItemised) (hvs : v.sequence? = some vs) :
    v.render = joinItems listSeparator vs := by
  cases h with
  | text s => cases hvs
  | @sequence _ ws hsequence hkinds hitems =>
    obtain rfl : ws = vs := Option.some.inj (hsequence.symm.trans hvs)
    have hall : (ws.all fun w => w.isNull || w.isScalar) = true := by simpa using hkinds
    cases v <;> cases hvs <;> simp [render, kind, sequence?, hall]

/-- The text that an itemised value is shown as has its items. -/
theorem toItems_render (h : v.IsItemised) : (Value.text v.render).toItems = v.toItems := by
  cases h with
  | text s => rfl
  | sequence hsequence hkinds hitems =>
    have hv : v.IsItemised := .sequence hsequence hkinds hitems
    rw [hv.render_eq_joinItems hsequence, joinItems, ← (hv.toItems_sequence hsequence).1,
      toItems_intercalate hv.isItem]

end IsItemised
end Value

namespace Filter

/-! ## List operations -/

/-- The order in which items are sorted: that of the codes of their characters, or against it. -/
def InOrder (descending : Bool) (a b : String) : Prop :=
  if descending then b.toList ≤ a.toList else a.toList ≤ b.toList

instance (descending : Bool) (a b : String) : Decidable (InOrder descending a b) :=
  inferInstanceAs (Decidable (if descending then b.toList ≤ a.toList else a.toList ≤ b.toList))

/-- Whether the arguments of a sort ask for descending order. -/
def asksDescending (args : List String) : Bool :=
  descendingWords.contains (wordOf (textArgument args 0 "asc"))

/-- The number that the first argument stands for. -/
def numberArgument? (args : List String) : Option Binary64 :=
  args[0]?.bind fun s => readFloat? (trim s.toList)

/-- What a filter that gives a list again makes of the items. -/
def Reworks (i : Invocation) (items result : List String) : Prop :=
  match i.name with
  | "limit" =>
    match numberArgument? i.args with
    | some (.finite negative m e) =>
      result = items.take (Binary64.truncate negative m e).toNat
    -- without a number all items are kept
    | none | some .nan => result = items
    | some (.infinite _) => False
  | "sort" => result.Perm items ∧ result.Pairwise (InOrder (asksDescending i.args))
  | "exclude" =>
    result = items.filter fun item => ∀ arg ∈ i.args, trim item.toList ≠ trim arg.toList
  | _ => False

/-- The list operations of a chain, one after the other. -/
inductive ReworksAll : List Invocation → List String → List String → Prop where
  | done {items : List String} : ReworksAll [] items items
  | next {i : Invocation} {is : List Invocation} {items middle result : List String}
      (hfirst : Reworks i items middle) (hrest : ReworksAll is middle result) :
      ReworksAll (i :: is) items result

/-- A limit that is finite or no number, a sort or an exclusion. -/
def KeepsItems (i : Invocation) : Prop :=
  i.name = "limit" ∧ ¬ InfiniteArgument i.args ∨ i.name = "sort" ∨ i.name = "exclude"

/-- What the other filters on lists answer for the items. -/
inductive Computes : Invocation → List String → Value → Prop where
  | join {name : String} {args items : List String} (hname : name ∈ ["join", "separator"]) :
      Computes ⟨name, args⟩ items
        (.text ((textArgument args 0 listSeparator).intercalate items))
  | wrap {args items : List String} :
      Computes ⟨"wrap", args⟩ items (.text ((textArgument args 2 listSeparator).intercalate
        (items.map fun item => textArgument args 0 "" ++ item ++ textArgument args 1 "")))
  | first {args items : List String} :
      Computes ⟨"first", args⟩ items (.text (items.head?.getD ""))
  | last {args items : List String} :
      Computes ⟨"last", args⟩ items (.text (items.getLast?.getD ""))
  | count {name : String} {args items : List String} (hname : name ∈ ["count", "length"]) :
      Computes ⟨name, args⟩ items (.int items.length)

/-! ## Sorting -/

theorem InOrder.trans {descending : Bool} {a b c : String} (hab : InOrder descending a b)
    (hbc : InOrder descending b c) : InOrder descending a c := by
  cases descending with
  | false => exact le_trans (α := List Char) hab hbc
  | true => exact le_trans (α := List Char) hbc hab

theorem InOrder.total (descending : Bool) (a b : String) :
    InOrder descending a b ∨ InOrder descending b a := by
  cases descending with
  | false => exact le_total a.toList b.toList
  | true => exact le_total b.toList a.toList

theorem InOrder.antisymm {descending : Bool} {a b : String} (hab : InOrder descending a b)
    (hba : InOrder descending b a) : a = b := by
  cases descending with
  | false => exact String.toList_inj.1 (le_antisymm (α := List Char) hab hba)
  | true => exact String.toList_inj.1 (le_antisymm (α := List Char) hba hab)

theorem sortItems_spec (descending : Bool) (items : List String) :
    (sortItems descending items).Perm items ∧
      (sortItems descending items).Pairwise (InOrder descending) := by
  have horder : ∀ a b : String,
      (if descending then decide (b ≤ a) else decide (a ≤ b)) = true ↔
        InOrder descending a b := by
    intro a b
    cases descending with
    | false => simpa [InOrder] using String.le_iff_toList_le
    | true => simpa [InOrder] using String.le_iff_toList_le
  have hsorted : (sortItems descending items).Pairwise fun a b =>
      (if descending then decide (b ≤ a) else decide (a ≤ b)) = true := by
    refine List.pairwise_mergeSort (fun a b c hab hbc => ?_) (fun a b => ?_) items
    · exact (horder a c).2 (((horder a b).1 hab).trans ((horder b c).1 hbc))
    · rw [Bool.or_eq_true, horder, horder]
      exact InOrder.total descending a b
  exact ⟨List.mergeSort_perm _ _, hsorted.imp fun h => (horder _ _).1 h⟩

/-! ## One filter -/

/-- A list operation has one result. -/
theorem Reworks.unique {i : Invocation} {items first second : List String}
    (h : Reworks i items first) (h' : Reworks i items second) : first = second := by
  unfold Reworks at h h'
  split at h
  · next hname =>
    simp only [hname] at h'
    split at h
    · next hnumber =>
      simp only [hnumber] at h'
      rw [h, h']
    · next hnumber =>
      simp only [hnumber] at h'
      rw [h, h']
    · next hnumber =>
      simp only [hnumber] at h'
      rw [h, h']
    · exact h.elim
  · next hname =>
    simp only [hname] at h'
    exact (h.1.trans h'.1.symm).eq_of_pairwise (fun a b _ _ => InOrder.antisymm) h.2 h'.2
  · next hname =>
    simp only [hname] at h'
    rw [h, h']
  · exact h.elim

theorem ReworksAll.unique {is : List Invocation} {items first second : List String}
    (h : ReworksAll is items first) (h' : ReworksAll is items second) : first = second := by
  induction h with
  | done =>
    cases h'
    rfl
  | next hfirst _ ih =>
    cases h' with
    | next hfirst' hrest' =>
      rw [hfirst.unique hfirst'] at ih
      exact ih hrest'

/-- No list operation makes new items. -/
theorem Reworks.subset {i : Invocation} {items result : List String}
    (h : Reworks i items result) : result ⊆ items := by
  unfold Reworks at h
  split at h
  · split at h
    · exact h ▸ List.take_subset _ _
    · exact h ▸ List.Subset.refl _
    · exact h ▸ List.Subset.refl _
    · exact h.elim
  · exact h.1.subset
  · exact h ▸ List.filter_subset_self _
  · exact h.elim

theorem infiniteArgument_iff {args : List String} :
    InfiniteArgument args ↔ ∃ negative, numberArgument? args = some (.infinite negative) := by
  simp only [InfiniteArgument, numberArgument?, Option.bind_eq_some_iff]
  constructor
  · rintro ⟨s, negative, hs, hread⟩
    exact ⟨negative, s, hs, hread⟩
  · rintro ⟨negative, s, hs, hread⟩
    exact ⟨s, negative, hs, hread⟩

theorem reworks_limit {args : List String} (h : ¬ InfiniteArgument args) (items : List String) :
    ∃ count, intArgument args 0 items.length = .ok count ∧
      Reworks ⟨"limit", args⟩ items (items.take count.toNat) := by
  have hnumber : ((argumentAt? args 0).bind fun s => readFloat? (trim s.toList)) =
      numberArgument? args := rfl
  unfold intArgument intArgument? Reworks
  rw [hnumber]
  cases hargument : numberArgument? args with
  | none => exact ⟨items.length, rfl, by simp⟩
  | some x =>
    cases x with
    | nan => exact ⟨items.length, rfl, by simp⟩
    | infinite negative => exact absurd (infiniteArgument_iff.2 ⟨negative, hargument⟩) h
    | finite negative m e => exact ⟨_, rfl, rfl⟩

theorem reworks_exclude (args items : List String) :
    Reworks ⟨"exclude", args⟩ items
      (items.filter fun item => !(args.map trimmedText).contains (trimmedText item)) := by
  refine List.filter_congr fun item _ => ?_
  rw [Bool.eq_iff_iff]
  simp only [Bool.not_eq_true', List.contains_eq_mem, List.mem_map, decide_eq_false_iff_not,
    decide_eq_true_eq, not_exists, not_and]
  refine forall_congr' fun arg => imp_congr_right fun _ => not_congr ?_
  rw [trimmedText, trimmedText, String.ofList_inj, eq_comm]

end Filter

/-! ## Chains -/

namespace Registry

open RecordTemplate.Filter

variable {context : FilterContext}

/-- One list operation: its result is written as a text, and depends on the items only. -/
theorem step_of_keepsItems (context : FilterContext) {i : Invocation} (h : KeepsItems i)
    (items : List String) :
    ∃ result, Reworks i items result ∧ ∀ v : Value, v.toItems = items →
      builtin.step context v i = .ok (.text (listSeparator.intercalate result)) := by
  obtain ⟨name, args⟩ := i
  obtain ⟨rfl, hfinite⟩ | rfl | rfl := h
  · obtain ⟨count, hcount, hreworks⟩ := reworks_limit hfinite items
    refine ⟨_, hreworks, fun v hv => step_of_answered (f := limited) rfl ?_⟩
    dsimp only [limited, onItems]
    rw [hv, hcount]
    rfl
  · refine ⟨_, sortItems_spec (asksDescending args) items,
      fun v hv => step_of_answered (f := sorted) rfl ?_⟩
    rw [← hv]
    rfl
  · refine ⟨_, reworks_exclude args items, fun v hv => step_of_answered (f := excluded) rfl ?_⟩
    rw [← hv]
    rfl

/-- One filter that leaves the list: it answers for the items of whatever reaches it. -/
theorem step_of_computes {i : Invocation} {v answer : Value} (h : Computes i v.toItems answer) :
    builtin.step context v i = .ok answer := by
  cases h with
  | join hname =>
    refine step_of_answered (f := joined) ?_ rfl
    obtain rfl | rfl : _ = "join" ∨ _ = "separator" := by simpa using hname
    all_goals rfl
  | wrap => exact step_of_answered (f := wrapped) rfl rfl
  | first => exact step_of_answered (f := Filter.first) rfl rfl
  | last => exact step_of_answered (f := Filter.last) rfl rfl
  | count hname =>
    refine step_of_answered (f := Filter.count) ?_ rfl
    obtain rfl | rfl : _ = "count" ∨ _ = "length" := by simpa using hname
    all_goals rfl

/-- A chain of list operations, from any value with these items: behind the first operation the
    items stand in a text. -/
theorem applyChain_reworksAll (context : FilterContext) {is : List Invocation}
    (his : ∀ i ∈ is, KeepsItems i) {items : List String} (hitems : ∀ s ∈ items, IsItem s) :
    ∃ result, ReworksAll is items result ∧ (∀ s ∈ result, IsItem s) ∧
      ∀ v : Value, v.toItems = items → builtin.applyChain context v is =
        (if is = [] then v else .text (listSeparator.intercalate result), []) := by
  induction is generalizing items with
  | nil => exact ⟨items, .done, hitems, fun v _ => rfl⟩
  | cons i is ih =>
    obtain ⟨hi, his⟩ := List.forall_mem_cons.1 his
    obtain ⟨middle, hfirst, hstep⟩ := step_of_keepsItems context hi items
    have hmiddle : ∀ s ∈ middle, IsItem s := fun s hs => hitems s (hfirst.subset hs)
    obtain ⟨result, hrest, hresult, hchain⟩ := ih his hmiddle
    refine ⟨result, .next hfirst hrest, hresult, fun v hv => ?_⟩
    rw [applyChain, hstep v hv]
    dsimp only
    rw [hchain _ (Value.toItems_intercalate hmiddle), if_neg (List.cons_ne_nil i is)]
    split
    · next hnil =>
      subst hnil
      cases hrest
      rfl
    · rfl

/-- A chain skips nothing and comes to a value with these items, as has the text that it is shown
    as; what is asked about a list behind the chain is answered for these items. -/
structure HandsOn (context : FilterContext) (v : Value) (is : List Invocation)
    (items : List String) (w : Value) : Prop where
  chain : builtin.applyChain context v is = (w, [])
  toItems : w.toItems = items
  shown : (Value.text w.render).toItems = items
  text : is ≠ [] → w = .text (listSeparator.intercalate items)
  answers : ∀ i answer, Computes i items answer →
    builtin.applyChain context v (is ++ [i]) = (answer, [])

theorem HandsOn.of_chain {v : Value} {is : List Invocation} {items : List String}
    (hitems : ∀ s ∈ items, IsItem s)
    (hempty : is = [] → v.toItems = items ∧ (Value.text v.render).toItems = items)
    (hchain : builtin.applyChain context v is =
      (if is = [] then v else .text (listSeparator.intercalate items), [])) :
    HandsOn context v is items
      (if is = [] then v else .text (listSeparator.intercalate items)) := by
  have htoItems : ∀ w, w = (if is = [] then v else .text (listSeparator.intercalate items)) →
      w.toItems = items ∧ (Value.text w.render).toItems = items := by
    rintro w rfl
    split
    · next hnil => exact hempty hnil
    · exact ⟨Value.toItems_intercalate hitems, Value.toItems_intercalate hitems⟩
  refine ⟨hchain, (htoItems _ rfl).1, (htoItems _ rfl).2, fun hne => if_neg hne, ?_⟩
  intro i answer hanswer
  rw [applyChain_append, hchain]
  dsimp only
  rw [← (htoItems _ rfl).1] at hanswer
  rw [applyChain, step_of_computes hanswer]
  rfl

/-- Lists keep their items along a chain of limits, sorts and exclusions: the chain comes to the
    list operations on the items, which have one result.  A list or tuple need not be known for
    that: the text that it is shown as has the same items, and the chain comes to the same. -/
theorem applyChain_keeps_items (context : FilterContext) {v : Value} (hv : v.IsItemised)
    {is : List Invocation} (his : ∀ i ∈ is, KeepsItems i) :
    ∃ items w, ReworksAll is v.toItems items ∧
      (∀ other, ReworksAll is v.toItems other → other = items) ∧
      HandsOn context v is items w ∧
      ∀ vs, v.sequence? = some vs → v.render = Value.joinItems listSeparator vs ∧
        ∃ u, HandsOn context (.text (Value.joinItems listSeparator vs)) is items u ∧
          u.render = w.render ∧ (is ≠ [] → u = w) := by
  obtain ⟨items, hreworks, hitems, hchain⟩ := applyChain_reworksAll context his hv.isItem
  have hempty : is = [] → v.toItems = items := by
    rintro rfl
    cases hreworks
    rfl
  refine ⟨items, _, hreworks, fun other hother => hother.unique hreworks,
    .of_chain hitems (fun hnil => ⟨hempty hnil, hv.toItems_render.trans (hempty hnil)⟩)
      (hchain v rfl), ?_⟩
  intro vs hvs
  have hrender := hv.render_eq_joinItems hvs
  rw [← hrender]
  refine ⟨rfl, _, .of_chain hitems (fun hnil => ?_) (hchain _ hv.toItems_render), ?_, ?_⟩
  · have htext := hv.toItems_render.trans (hempty hnil)
    exact ⟨htext, htext⟩
  · split <;> rfl
  · intro hne
    rw [if_neg hne, if_neg hne]

/-- A list with an item that ends in a comma, one that begins with a space and two that show
    nothing is sorted, cut and joined. -/
theorem applyChain_keeps_items_comma :
    (Value.list [.text "b,", .null, .text " a", .int 3, .bool false]).IsItemised ∧
      (∀ i ∈ [⟨"sort", ["desc"]⟩, ⟨"limit", ["2.9"]⟩], KeepsItems i) ∧
      builtin.applyChain newsContext
          (.list [.text "b,", .null, .text " a", .int 3, .bool false])
          [⟨"sort", ["desc"]⟩, ⟨"limit", ["2.9"]⟩, ⟨"join", ["/"]⟩] =
        (.text "b,/3", []) := by
  have hv : (Value.list [.text "b,", .null, .text " a", .int 3, .bool false]).IsItemised := by
    refine .sequence rfl (by decide) fun w hw hfull => ?_
    have hitems : ∀ w ∈ [Value.text "b,", .null, .text " a", .int 3, .bool false],
        w.isEmptyItem = false → trim w.scalarText.toList ≠ [] ∧
          ¬ listSeparator.toList <:+: w.scalarText.toList := by
      decide
    exact ⟨(hitems w hw hfull).1, (hitems w hw hfull).2⟩
  have hnumber : numberArgument? ["2.9"] = some (.finite false 6530219459687219 (-51)) := by
    decide +kernel
  have hlimit : ¬ InfiniteArgument ["2.9"] := by
    rw [infiniteArgument_iff, hnumber]
    simp
  have his : ∀ i ∈ [(⟨"sort", ["desc"]⟩ : Invocation), ⟨"limit", ["2.9"]⟩], KeepsItems i := by
    simp [KeepsItems, hlimit]
  obtain ⟨items, w, -, hunique, hw, -⟩ := applyChain_keeps_items newsContext hv his
  have hitems : ["b,", "3"] = items := by
    have hsorted : Reworks ⟨"sort", ["desc"]⟩ ["b,", " a", "3"] ["b,", "3", " a"] :=
      ⟨by decide, by decide⟩
    have hcut : Reworks ⟨"limit", ["2.9"]⟩ ["b,", "3", " a"] ["b,", "3"] := by
      simp only [Reworks, hnumber]
      decide
    exact hunique _ (.next hsorted (.next hcut .done))
  subst hitems
  exact ⟨hv, his, hw.answers ⟨"join", ["/"]⟩ _ (.join (by simp))⟩

end Registry
end RecordTemplate
