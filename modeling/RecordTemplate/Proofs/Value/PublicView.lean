/-
  RecordTemplate.Proofs.Value.PublicView

  Values without the private attributes of their objects.

  The public view of a value leaves out the private attributes of all objects in it, at any depth;
  the keys of mappings stay, whatever their names.  Reading a value commutes with it: a view has the
  text, the kind and the entries of the value (`Value.render_publicView`,
  `Entries.value?_publicEntries`), and a view of a value without containers is the value itself.
-/

import RecordTemplate.Source.DataSource
import RecordTemplate.Value.Reading
import RecordTemplate.Value.TermList

namespace RecordTemplate

/-- A function of the items changes no name. -/
theorem Named.lookup_map {α β : Type} (items : Named α) (f : α → β) (name : String) :
    List.lookup name (List.map (fun e => (e.1, f e.2)) items) =
      (List.lookup name items).map f := by
  induction items with
  | nil => rfl
  | cons e items ih =>
    rw [List.map_cons, List.lookup_cons, List.lookup_cons, ih]
    cases name == e.1 <;> rfl

namespace Value

/-! ## Views -/

mutual

/-- A value without the private attributes of the objects in it. -/
def publicView : Value → Value
  | list vs => list (publicViews vs)
  | tuple vs => tuple (publicViews vs)
  | set vs => set (publicViews vs)
  | object es => object (publicAttributes es)
  | mapping es => mapping (publicEntries es)
  | v => v

def publicViews : List Value → List Value
  | [] => []
  | v :: vs => v.publicView :: publicViews vs

/-- All entries of a mapping are public. -/
def publicEntries : List (String × Value) → List (String × Value)
  | [] => []
  | (name, v) :: es => (name, v.publicView) :: publicEntries es

/-- Of the attributes of an object those whose name is not private. -/
def publicAttributes : List (String × Value) → List (String × Value)
  | [] => []
  | (name, v) :: es =>
    if isPrivateName name then publicAttributes es
    else (name, v.publicView) :: publicAttributes es

end

/-! ## Entries and items -/

theorem publicViews_eq_map (vs : List Value) : publicViews vs = vs.map publicView := by
  induction vs with
  | nil => rfl
  | cons v vs ih => rw [publicViews, ih, List.map_cons]

theorem publicEntries_eq_map (es : Entries) :
    publicEntries es = es.map fun e => (e.1, e.2.publicView) := by
  induction es with
  | nil => rfl
  | cons e es ih => rw [publicEntries, ih, List.map_cons]

theorem value?_publicEntries (es : Entries) (name : String) :
    Entries.value? (publicEntries es) name = (Entries.value? es name).map publicView := by
  rw [publicEntries_eq_map]
  exact Named.lookup_map es publicView name

theorem value_publicEntries (es : Entries) (name : String) :
    Entries.value (publicEntries es) name = (Entries.value es name).publicView := by
  rw [Entries.value, Entries.value, value?_publicEntries]
  cases Entries.value? es name <;> rfl

/-- Public names have the same attributes, and private ones none. -/
theorem value?_publicAttributes (es : Entries) (name : String) :
    Entries.value? (publicAttributes es) name =
      if isPrivateName name then none else (Entries.value? es name).map publicView := by
  unfold Entries.value?
  induction es with
  | nil => cases isPrivateName name <;> rfl
  | cons e es ih =>
    rw [publicAttributes, List.lookup_cons]
    by_cases hname : name = e.1
    · subst hname
      rw [beq_self_eq_true]
      cases hprivate : isPrivateName e.1 with
      | true => simpa [hprivate] using ih
      | false => simp
    · rw [beq_eq_false_iff_ne.2 hname, ← ih]
      split
      · rfl
      · rw [List.lookup_cons, beq_eq_false_iff_ne.2 hname]

theorem publicEntries_set (es : Entries) (name : String) (v : Value) :
    publicEntries (Named.set es name v) = Named.set (publicEntries es) name v.publicView := by
  simp only [publicEntries_eq_map, Named.set, List.any_map, Function.comp_def]
  split
  · rw [List.map_map, List.map_map]
    refine List.map_congr_left fun e _ => ?_
    dsimp only [Function.comp]
    split <;> rfl
  · rw [List.map_append, List.map_singleton]

/-! ## Kinds and parts -/

@[simp] theorem isNull_publicView (v : Value) : v.publicView.isNull = v.isNull := by
  cases v <;> rfl

@[simp] theorem isScalar_publicView (v : Value) : v.publicView.isScalar = v.isScalar := by
  cases v <;> rfl

@[simp] theorem isText_publicView (v : Value) (s : String) :
    v.publicView.isText s = v.isText s := by
  cases v <;> rfl

@[simp] theorem term?_publicView (v : Value) : v.publicView.term? = v.term? := by
  cases v <;> rfl

@[simp] theorem typeName_publicView (v : Value) : v.publicView.typeName = v.typeName := by
  cases v <;> rfl

@[simp] theorem isEmptyItem_publicView (v : Value) : v.publicView.isEmptyItem = v.isEmptyItem := by
  cases v with
  | list vs | tuple vs => cases vs <;> rfl
  | mapping es => cases es <;> rfl
  | bool b => cases b <;> rfl
  | _ => rfl

theorem sequence?_publicView (v : Value) :
    v.publicView.sequence? = v.sequence?.map publicViews := by
  cases v <;> rfl

theorem isTermList_publicView (v : Value) : v.publicView.isTermList = v.isTermList := by
  rw [isTermList, isTermList, sequence?_publicView]
  rcases v.sequence? with _ | _ | ⟨w, ws⟩
  · rfl
  · rfl
  · cases w <;> rfl

@[simp] theorem unwrapped_publicView (v : Value) :
    v.publicView.unwrapped = v.unwrapped.publicView := by
  cases v with
  | mapping es =>
    simp only [publicView, unwrapped, value_publicEntries, isText_publicView, isNull_publicView]
    split <;> rfl
  | _ => rfl

@[simp] theorem isVectorImage_publicView (v : Value) :
    v.publicView.isVectorImage = v.isVectorImage := by
  cases v with
  | mapping es => simp only [publicView, isVectorImage, value_publicEntries, isText_publicView]
  | _ => rfl

theorem attachmentId_publicEntries (es : Entries) :
    attachmentId (publicEntries es) = (attachmentId es).publicView := by
  simp only [attachmentId, value_publicEntries, isNull_publicView]
  split <;> rfl

@[simp] theorem isPresent_publicView (v : Value) : v.publicView.isPresent = v.isPresent := by
  cases v with
  | list vs | tuple vs | set vs => cases vs <;> rfl
  | mapping es => cases es <;> rfl
  | _ => rfl

theorem elements_publicView (v : Value) :
    v.publicView.elements = v.elements.map publicViews := by
  have hparts {α : Type} (f : α → Value) (hf : ∀ a, (f a).publicView = f a) (l : List α) :
      publicViews (l.map f) = l.map f := by
    rw [publicViews_eq_map, List.map_map]
    exact List.map_congr_left fun a _ => hf a
  cases v with
  | text s =>
    exact congrArg Except.ok (hparts (fun c => text (String.ofList [c])) (fun _ => rfl) _).symm
  | bytes bs => exact congrArg Except.ok (hparts (fun b : UInt8 => int b.toNat) (fun _ => rfl) _).symm
  | mapping es =>
    have hnames : Entries.names (publicEntries es) = Entries.names es := by
      rw [publicEntries_eq_map, Entries.names, Entries.names, List.map_map]
      rfl
    refine congrArg Except.ok ?_
    rw [hnames]
    exact (hparts text (fun _ => rfl) _).symm
  | _ => rfl

/-- The terms among some values are those among their views. -/
theorem filterMap_term?_publicViews (vs : List Value) :
    (publicViews vs).filterMap term? = vs.filterMap term? := by
  rw [publicViews_eq_map, List.filterMap_map]
  exact congrArg (List.filterMap · vs) (funext fun v => term?_publicView v)

theorem termListText_publicViews (vs : List Value) (property : Option String) :
    termListText (publicViews vs) property = termListText vs property := by
  rw [termListText, termListText, filterMap_term?_publicViews]

/-! ## Texts -/

theorem publicView_of_isScalar {v : Value} (h : (v.isNull || v.isScalar) = true) :
    v.publicView = v := by
  cases v <;> first | rfl | cases h

theorem publicViews_of_all_isScalar {vs : List Value}
    (h : vs.all (fun v => v.isNull || v.isScalar) = true) : publicViews vs = vs := by
  rw [publicViews_eq_map]
  exact (List.map_congr_left fun v hv => publicView_of_isScalar (List.all_eq_true.1 h v hv)).trans
    (List.map_id vs)

/-- Values that hold other values. -/
def isContainer : Value → Bool
  | list _ | tuple _ | set _ | object _ | mapping _ => true
  | _ => false

/-- A container without a text. -/
def IsBlank (v : Value) : Prop := v.isContainer = true ∧ v.render = ""

theorem kind_list_publicViews (vs : List Value) :
    (list (publicViews vs)).kind = (list vs).kind := by
  simp only [kind, publicViews_eq_map, List.all_map, Function.comp_def, isNull_publicView,
    isScalar_publicView]

/-- A value is its own view, or neither has a text. -/
theorem publicView_eq_or_isBlank (v : Value) :
    v.publicView = v ∨ v.IsBlank ∧ v.publicView.IsBlank := by
  -- lists and tuples of scalars are their own views
  have hitems (vs : List Value) : publicViews vs = vs ∨ (list vs).kind = .composite := by
    cases hplain : vs.all fun v => v.isNull || v.isScalar with
    | true => exact .inl (publicViews_of_all_isScalar hplain)
    | false => exact .inr (by rw [kind, hplain]; rfl)
  have hblank {w : Value} (hw : w.isContainer = true) (hkind : w.kind = .composite) : w.IsBlank :=
    ⟨hw, by rw [render, hkind]⟩
  cases v with
  | list vs =>
    refine (hitems vs).imp (congrArg list) fun hkind => ⟨hblank rfl hkind, hblank rfl ?_⟩
    exact (kind_list_publicViews vs).trans hkind
  | tuple vs =>
    refine (hitems vs).imp (congrArg tuple) fun hkind => ⟨hblank rfl hkind, hblank rfl ?_⟩
    exact (kind_list_publicViews vs).trans hkind
  | set vs => exact .inr ⟨⟨rfl, rfl⟩, rfl, rfl⟩
  | object es => exact .inr ⟨⟨rfl, rfl⟩, rfl, rfl⟩
  | mapping es => exact .inr ⟨⟨rfl, rfl⟩, rfl, rfl⟩
  | _ => exact .inl rfl

@[simp] theorem render_publicView (v : Value) : v.publicView.render = v.render := by
  obtain h | ⟨h, h'⟩ := v.publicView_eq_or_isBlank
  · rw [h]
  · rw [h.2, h'.2]

@[simp] theorem toItems_publicView (v : Value) : v.publicView.toItems = v.toItems := by
  have hitems (vs : List Value) : ((publicViews vs).filter fun v => !v.isEmptyItem).map render =
      (vs.filter fun v => !v.isEmptyItem).map render := by
    simp only [publicViews_eq_map, List.filter_map, List.map_map, Function.comp_def,
      isEmptyItem_publicView, render_publicView]
  cases v with
  | list vs | tuple vs => simp only [publicView, toItems, hitems]
  | set vs | object es | mapping es => rfl
  | _ => rfl

/-! ## Readings -/

theorem strictNumber?_of_isContainer {v : Value} (h : v.isContainer = true) :
    v.strictNumber? = .ok none := by
  cases v <;> first | rfl | cases h

theorem readNumber_of_isBlank {v : Value} (h : v.IsBlank) :
    v.readNumber = .error .emptyNumber := by
  obtain ⟨hcontainer, hrender⟩ := h
  cases v with
  | list _ | tuple _ | set _ | object _ | mapping _ =>
    simp only [readNumber, toBinary64?, hrender]
    rfl
  | _ => cases hcontainer

theorem readMoment_of_isBlank {v : Value} (h : v.IsBlank) (today : Calendar.Date) :
    v.readMoment today = .error .blankDate := by
  obtain ⟨hcontainer, hrender⟩ := h
  have hnumber := strictNumber?_of_isContainer hcontainer
  cases v with
  | list _ | tuple _ | set _ | object _ | mapping _ =>
    simp only [readMoment, hnumber, hrender]
    rfl
  | _ => cases hcontainer

@[simp] theorem strictNumber?_publicView (v : Value) :
    v.publicView.strictNumber? = v.strictNumber? := by
  obtain h | ⟨h, h'⟩ := v.publicView_eq_or_isBlank
  · rw [h]
  · rw [strictNumber?_of_isContainer h.1, strictNumber?_of_isContainer h'.1]

@[simp] theorem readNumber_publicView (v : Value) : v.publicView.readNumber = v.readNumber := by
  obtain h | ⟨h, h'⟩ := v.publicView_eq_or_isBlank
  · rw [h]
  · rw [readNumber_of_isBlank h, readNumber_of_isBlank h']

@[simp] theorem readMoment_publicView (v : Value) (today : Calendar.Date) :
    v.publicView.readMoment today = v.readMoment today := by
  obtain h | ⟨h, h'⟩ := v.publicView_eq_or_isBlank
  · rw [h]
  · rw [readMoment_of_isBlank h, readMoment_of_isBlank h']

/-! ## Attributes -/

/-- What a value other than an object has by its type is the same for its view. -/
theorem parts_publicView {v : Value} (h : ∀ es, v ≠ object es) :
    v.publicView.parts = v.parts ∧ publicEntries v.parts = v.parts := by
  cases v with
  | object es => exact absurd rfl (h es)
  | dateTime t =>
    refine ⟨rfl, ?_⟩
    rcases t with ⟨d, t, _ | z⟩ <;> rfl
  | _ => exact ⟨rfl, rfl⟩

/-- A public attribute of a view is the view of the attribute. -/
theorem attribute?_publicView {name : String} (h : isPrivateName name = false) (v : Value) :
    v.publicView.attribute? name = (v.attribute? name).map publicView := by
  have hparts : Entries.value? v.publicView.parts name =
      (Entries.value? v.parts name).map publicView := by
    by_cases hobject : ∃ es, v = object es
    · obtain ⟨es, rfl⟩ := hobject
      exact (value?_publicAttributes es name).trans (by rw [h]; rfl)
    · obtain ⟨hview, hown⟩ := parts_publicView fun es he => hobject ⟨es, he⟩
      rw [← value?_publicEntries, hown, hview]
  have hoperations : v.publicView.operations = v.operations := by cases v <;> rfl
  rw [attribute?, attribute?, hparts, hoperations]
  cases Entries.value? v.parts name with
  | some w => rfl
  | none =>
    dsimp only [Option.map_none]
    split <;> rfl

/-- Asked for an entry, a value that is no mapping fails as its view does. -/
theorem noEntries_publicView (v : Value) : v.publicView.noEntries = v.noEntries := by
  cases v with
  | object es =>
    have hget : isPrivateName "get" = false := by decide
    simp only [publicView, noEntries, noOperation, value?_publicAttributes, hget]
    cases Entries.value? es "get" with
    | none => rfl
    | some w => exact congrArg Failure.notCallable (typeName_publicView w)
  | _ => rfl

/-! ## Keys -/

mutual

theorem keyFault?_publicView : (v : Value) → v.publicView.keyFault? = v.keyFault?
  | tuple vs => firstKeyFault?_publicViews vs
  | null | bool _ | int _ | float _ | decimal _ | text _ | date _ | dateTime _ | list _ | set _
  | bytes _ | term _ | object _ | mapping _ | other _ => rfl

theorem firstKeyFault?_publicViews :
    (vs : List Value) → firstKeyFault? (publicViews vs) = firstKeyFault? vs
  | [] => rfl
  | v :: vs => by
    rw [publicViews, firstKeyFault?, firstKeyFault?, keyFault?_publicView v,
      firstKeyFault?_publicViews vs]

end

mutual

theorem sameKey_publicView : (key v : Value) → key.sameKey v.publicView = key.sameKey v
  | key, tuple vs => by
    cases key with
    | tuple ks => exact sameKeys_publicViews ks vs
    | _ => simp [publicView, sameKey, Magnitude.of?]
  | key, list _ | key, set _ | key, object _ | key, mapping _ => by
    cases key <;> simp [publicView, sameKey, Magnitude.of?]
  | _, null | _, bool _ | _, int _ | _, float _ | _, decimal _ | _, text _ | _, date _
  | _, dateTime _ | _, bytes _ | _, term _ | _, other _ => rfl

theorem sameKeys_publicViews :
    (ks vs : List Value) → sameKeys ks (publicViews vs) = sameKeys ks vs
  | [], [] => rfl
  | [], _ :: _ => rfl
  | _ :: _, [] => rfl
  | k :: ks, v :: vs => by
    rw [publicViews, sameKeys, sameKeys, sameKey_publicView k v, sameKeys_publicViews ks vs]

end
end Value

/-- Keys do not tell a value from its view. -/
theorem Keyed.find_publicView {α : Type} (items : Keyed α) (v : Value) :
    Keyed.find items v.publicView = Keyed.find items v := by
  have hget : Keyed.get? items v.publicView = Keyed.get? items v := by
    rw [Keyed.get?, Keyed.get?]
    exact congrArg (fun p => (List.find? p items).map (·.2))
      (funext fun e => Value.sameKey_publicView e.1 v)
  rw [Keyed.find, Keyed.find, Value.checkKey, Value.checkKey, Value.keyFault?_publicView, hget]

end RecordTemplate
