/-
  RecordTemplate.Proofs.Template.Printing

  Tags as they can be written, with every choice of white space and quotes, and the proof that
  parsing undoes writing (`parse?_written`).  Quotes are read twice, once where the tag ends and
  once where chains and arguments are split; a written argument is made so that both agree on it:
  it is a piece of a chain, and it passes every separator.
-/

import Mathlib.Data.Set.List
import RecordTemplate.Proofs.Template.Acceptance
import RecordTemplate.Proofs.Template.Splitting

namespace RecordTemplate.Template

open RecordTemplate.Text

/-! ## Written tags -/

/-- White space. -/
structure Blank where
  text : List Char
  spaces : ∀ c ∈ text, isSpace c = true

/-- No white space at all. -/
def Blank.empty : Blank := ⟨[], by simp⟩

/-- Something written with white space around it. -/
structure Padded (α : Type) where
  before : Blank
  item : α
  after : Blank

def Padded.text {α : Type} (write : α → List Char) (p : Padded α) : List Char :=
  p.before.text ++ (write p.item ++ p.after.text)

/-- Things written one after the other with a separator between them. -/
def separated {α : Type} (separator : Char) (write : α → List Char) (ps : List (Padded α)) :
    List Char :=
  joinWith [separator] (ps.map (Padded.text write))

/-- The characters that an argument without quotes does not hold. -/
def bareStops : List Char := ['\'', '"', '(', ')', ',', '%']

/-- An argument of a filter, in quotes that do not occur in it or bare. -/
inductive WrittenArgument where
  | single (value : String) (plain : '\'' ∉ value.toList)
  | double (value : String) (plain : '"' ∉ value.toList)
  | bare (value : String) (ne : value.toList ≠ []) (trimmed : IsTrimmed value.toList)
      (plain : ∀ c ∈ value.toList, c ∉ bareStops)

namespace WrittenArgument

def value : WrittenArgument → String
  | single v _ | double v _ | bare v _ _ _ => v

def text : WrittenArgument → List Char
  | single v _ => '\'' :: (v.toList ++ ['\''])
  | double v _ => '"' :: (v.toList ++ ['"'])
  | bare v _ _ _ => v.toList

end WrittenArgument

/-- Whether a filter can have this name. -/
def IsFilterName (name : String) : Prop :=
  name.toList ≠ [] ∧ ∀ c ∈ name.toList, isNameChar c = true

instance (name : String) : Decidable (IsFilterName name) :=
  inferInstanceAs (Decidable (_ ∧ _))

/-- A filter: a name, or a name and arguments in parentheses. -/
structure WrittenFilter where
  name : String
  isName : IsFilterName name
  arguments : Option (List (Padded WrittenArgument))

namespace WrittenFilter

def argumentsText (as : List (Padded WrittenArgument)) : List Char :=
  separated ',' WrittenArgument.text as

def suffixText : Option (List (Padded WrittenArgument)) → List Char
  | none => []
  | some as => '(' :: (argumentsText as ++ [')'])

def text (f : WrittenFilter) : List Char := f.name.toList ++ suffixText f.arguments

/-- The filter with its arguments as they are meant. -/
def invocation (f : WrittenFilter) : Invocation :=
  ⟨f.name, (f.arguments.getD []).map fun p => p.item.value⟩

end WrittenFilter

/-- A tag: a source, the segments of a path, and filters after bars. -/
structure WrittenTag where
  source : String
  path : List String
  path_ne : path ≠ []
  segments : ∀ segment ∈ path, IsPlainWord segment
  beforeBar : Blank
  filters : List (Padded WrittenFilter)

namespace WrittenTag

def pathText (w : WrittenTag) : List Char := joinWith ['.'] (w.path.map String.toList)

def chainText (fs : List (Padded WrittenFilter)) : List Char :=
  separated '|' WrittenFilter.text fs

def tailText (w : WrittenTag) : List Char :=
  if w.filters.isEmpty then [] else w.beforeBar.text ++ '|' :: chainText w.filters

def text (w : WrittenTag) : List Char := tagText w.source.toList w.pathText w.tailText

/-- Whether a tag is written with this source, this path and these filters. -/
def Writes (w : WrittenTag) (source : String) (path : List String) (filters : List Invocation) :
    Prop :=
  w.source = source ∧ w.path = path ∧ w.filters.map (fun p => p.item.invocation) = filters

end WrittenTag

/-! ## Character classes -/

theorem isSpace_of_isNameChar {c : Char} (h : isNameChar c = true) : isSpace c = false := by
  cases hspace : isSpace c with
  | false => rfl
  | true =>
    have hpath := isPathChar_of_isSpace hspace
    have hword : isWord c = true := by
      have := h
      simp only [isNameChar, Bool.and_eq_true] at this
      exact this.2
    simp [isPathChar, hword] at hpath

/-- A character of a class that another character is not of is not that character. -/
theorem ne_of_class {p : Char → Bool} {c d : Char} (hc : p c = true) (hd : p d = false) :
    c ≠ d := by
  rintro rfl
  rw [hd] at hc
  cases hc

theorem isQuote_eq_false_iff {c : Char} : isQuote c = false ↔ c ≠ '"' ∧ c ≠ '\'' := by
  simp [isQuote]

theorem isQuote_of_isNameChar {c : Char} (h : isNameChar c = true) : isQuote c = false :=
  isQuote_eq_false_iff.2 ⟨ne_of_class h (by decide), ne_of_class h (by decide)⟩

/-! ## White space -/

section Blanks

variable {separator : Char} {depth : Nat} {α : Type} {write : α → List Char}

theorem Blank.chainText (b : Blank) : ChainText b.text := chainText_of_isSpace b.spaces

theorem Blank.passes (b : Blank) (hsep : isSpace separator = false) :
    Passes [separator] ⟨none, depth⟩ b.text ⟨none, depth⟩ := by
  refine passes_plain rfl fun c hc => ?_
  have hspace := b.spaces c hc
  refine ⟨isQuote_of_isSpace hspace, ne_of_class hspace (by decide),
    ne_of_class hspace (by decide), fun _ heq => ?_⟩
  exact ne_of_class hspace hsep (List.cons.inj heq).1.symm

theorem Padded.passes (p : Padded α) (hsep : isSpace separator = false)
    (h : Passes [separator] ⟨none, depth⟩ (write p.item) ⟨none, depth⟩) :
    Passes [separator] ⟨none, depth⟩ (p.text write) ⟨none, depth⟩ :=
  (p.before.passes hsep).append (h.append (p.after.passes hsep))

theorem Padded.trim_text (p : Padded α) (h : IsTrimmed (write p.item)) :
    trim (p.text write) = write p.item :=
  trim_padded p.before.spaces p.after.spaces h

theorem Padded.mem_text (p : Padded α) {c : Char} (hc : c ∈ write p.item) : c ∈ p.text write :=
  List.mem_append_right _ (List.mem_append_left _ hc)

theorem chainText_separated (hquote : isQuote separator = false) (hpercent : separator ≠ '%')
    (h : ∀ a, ChainText (write a)) (ps : List (Padded α)) :
    ChainText (separated separator write ps) := by
  have hsep : ChainText [separator] := ChainText.char hquote hpercent ChainText.nil
  refine joinWith_induction ChainText.nil (fun _ _ => ChainText.append) hsep fun part hpart => ?_
  obtain ⟨p, -, rfl⟩ := List.mem_map.1 hpart
  exact p.before.chainText.append ((h p.item).append p.after.chainText)

/-- Something that is more than white space is still more than that among others. -/
theorem trim_separated_ne (htrim : ∀ a, IsTrimmed (write a)) (hwrite : ∀ a, write a ≠ [])
    {ps : List (Padded α)} (hne : ps ≠ []) : trim (separated separator write ps) ≠ [] := by
  obtain ⟨p, ps, rfl⟩ := List.exists_cons_of_ne_nil hne
  obtain ⟨c, s, hs⟩ := List.exists_cons_of_ne_nil (hwrite p.item)
  have hspace : isSpace c = false := (htrim p.item).first c (by rw [hs]; rfl)
  have hitem : c ∈ write p.item := by rw [hs]; exact List.mem_cons_self
  exact trim_ne_nil (mem_joinWith List.mem_cons_self (p.mem_text hitem)) hspace

theorem splitTopLevel_separated (hquote : isQuote separator = false) (hopen : separator ≠ '(')
    (hsep : isSpace separator = false) (h : ∀ a, Passes [separator] {} (write a) {})
    {ps : List (Padded α)} (hne : ps ≠ []) :
    splitTopLevel [separator] (separated separator write ps) = ps.map (Padded.text write) := by
  refine splitTopLevel_joinWith hquote hopen (by simpa using hne) fun part hpart => ?_
  obtain ⟨p, -, rfl⟩ := List.mem_map.1 hpart
  exact p.passes hsep (h p.item)

end Blanks

/-! ## Arguments -/

namespace WrittenArgument

theorem isTrimmed_quoted {q : Char} (hq : isSpace q = false) (s : List Char) :
    IsTrimmed (q :: (s ++ [q])) where
  first c hc := by
    cases hc
    exact hq
  last c hc := by
    have hlast : (q :: (s ++ [q])).getLast? = some q := by
      rw [← List.cons_append, List.getLast?_concat]
    rw [hlast] at hc
    cases hc
    exact hq

theorem isTrimmed (a : WrittenArgument) : IsTrimmed a.text := by
  cases a with
  | single v plain => exact isTrimmed_quoted (by decide) v.toList
  | double v plain => exact isTrimmed_quoted (by decide) v.toList
  | bare v ne trimmed plain => exact trimmed

theorem text_ne (a : WrittenArgument) : a.text ≠ [] := by
  cases a with
  | single v plain => exact List.cons_ne_nil _ _
  | double v plain => exact List.cons_ne_nil _ _
  | bare v ne trimmed plain => exact ne

theorem ne_of_plain {v : List Char} (plain : ∀ c ∈ v, c ∉ bareStops) {c d : Char} (hc : c ∈ v)
    (hd : d ∈ bareStops) : c ≠ d := by
  rintro rfl
  exact plain c hc hd

theorem isQuote_of_plain {v : List Char} (plain : ∀ c ∈ v, c ∉ bareStops) {c : Char}
    (hc : c ∈ v) : isQuote c = false :=
  isQuote_eq_false_iff.2
    ⟨ne_of_plain plain hc (by decide), ne_of_plain plain hc (by decide)⟩

theorem chainText_quoted {q : Char} (hq : isQuote q = true) {s : List Char} (hs : q ∉ s) :
    ChainText (q :: (s ++ [q])) := ChainText.quoted hq hs ChainText.nil

theorem chainText (a : WrittenArgument) : ChainText a.text := by
  cases a with
  | single v plain => exact chainText_quoted (by decide) plain
  | double v plain => exact chainText_quoted (by decide) plain
  | bare v ne trimmed plain =>
    exact chainText_of_forall fun c hc =>
      ⟨isQuote_of_plain plain hc, ne_of_plain plain hc (by decide)⟩

/-- A comma inside an argument stands in quotes, and other separators stand in the parentheses
    around the arguments. -/
theorem passes (a : WrittenArgument) {separator : Char} {depth : Nat}
    (hsep : depth = 0 → separator = ',') :
    Passes [separator] ⟨none, depth⟩ a.text ⟨none, depth⟩ := by
  cases a with
  | single v plain => exact passes_quoted (by decide) plain depth
  | double v plain => exact passes_quoted (by decide) plain depth
  | bare v ne trimmed plain =>
    refine passes_plain rfl fun c hc => ?_
    refine ⟨isQuote_of_plain plain hc, ne_of_plain plain hc (by decide),
      ne_of_plain plain hc (by decide), fun hdepth heq => ?_⟩
    have hcomma : c = ',' := by rw [← hsep hdepth, List.cons.inj heq |>.1]
    exact ne_of_plain plain hc (by decide) hcomma

theorem unquote_quoted {q : Char} (hq : isQuote q = true) {s t : List Char}
    (ht : trim t = q :: (s ++ [q])) : unquote t = s := by
  have hlast : (s ++ [q]).getLast? = some q := List.getLast?_concat
  simp only [unquote, ht, hq, hlast, and_self, if_true, List.dropLast_concat]

/-- An argument is read as what is meant. -/
theorem unquote_text (p : Padded WrittenArgument) :
    unquote (p.text text) = p.item.value.toList := by
  have htrim := p.trim_text p.item.isTrimmed
  revert htrim
  cases p.item with
  | single v plain => exact unquote_quoted (by decide)
  | double v plain => exact unquote_quoted (by decide)
  | bare v ne trimmed plain =>
    -- no quote begins the argument, so nothing is taken off
    intro htrim
    obtain ⟨c, s, hs⟩ := List.exists_cons_of_ne_nil ne
    have hquote : isQuote c = false :=
      isQuote_of_plain plain (by rw [hs]; exact List.mem_cons_self)
    have htrim' : trim (p.text text) = c :: s := htrim.trans hs
    simp only [unquote, htrim', hquote, value, hs]
    simp

end WrittenArgument

/-! ## Filters -/

namespace WrittenFilter

theorem text_ne (f : WrittenFilter) : f.text ≠ [] := by
  intro h
  exact f.isName.1 (List.append_eq_nil_iff.1 h).1

theorem chainText (f : WrittenFilter) : ChainText f.text := by
  have hname : ChainText f.name.toList := by
    refine chainText_of_forall fun c hc => ?_
    have hchar := f.isName.2 c hc
    exact ⟨isQuote_of_isNameChar hchar, ne_of_class hchar (by decide)⟩
  have hsuffix : ChainText (suffixText f.arguments) := by
    cases f.arguments with
    | none => exact ChainText.nil
    | some as =>
      have harguments : ChainText (argumentsText as) :=
        chainText_separated (by decide) (by decide) WrittenArgument.chainText as
      refine ChainText.char (by decide) (by decide) ?_
      exact harguments.append (chainText_of_forall (by decide))
  exact hname.append hsuffix

/-- The arguments of a filter pass every bar, as they stand in parentheses. -/
theorem passes_arguments (as : List (Padded WrittenArgument)) (depth : Nat) :
    Passes ['|'] ⟨none, depth + 1⟩ (argumentsText as) ⟨none, depth + 1⟩ := by
  have hcomma : Passes ['|'] ⟨none, depth + 1⟩ [','] ⟨none, depth + 1⟩ :=
    passes_plain rfl (by simp [isQuote])
  have hnil : Passes ['|'] ⟨none, depth + 1⟩ [] ⟨none, depth + 1⟩ := rfl
  refine @joinWith_induction (fun s => Passes ['|'] ⟨none, depth + 1⟩ s ⟨none, depth + 1⟩) hnil
    (fun _ _ => Passes.append) [','] hcomma _ fun part hpart => ?_
  obtain ⟨p, -, rfl⟩ := List.mem_map.1 hpart
  exact p.passes (by decide) (p.item.passes (by simp))

theorem passes (f : WrittenFilter) : Passes ['|'] {} f.text {} := by
  have hname : Passes ['|'] {} f.name.toList {} := by
    refine passes_plain rfl fun c hc => ?_
    have hchar := f.isName.2 c hc
    refine ⟨isQuote_of_isNameChar hchar, ne_of_class hchar (by decide),
      ne_of_class hchar (by decide), fun _ heq => ?_⟩
    exact ne_of_class hchar (by decide) (List.cons.inj heq).1.symm
  have hsuffix : Passes ['|'] {} (suffixText f.arguments) {} := by
    cases f.arguments with
    | none => rfl
    | some as => exact (passes_arguments as 0).parenthesised
  exact hname.append hsuffix

theorem isTrimmed (f : WrittenFilter) : IsTrimmed f.text := by
  obtain ⟨hne, hchars⟩ := f.isName
  constructor
  · intro c hc
    obtain ⟨d, s, hs⟩ := List.exists_cons_of_ne_nil hne
    have hd : d ∈ f.name.toList := by rw [hs]; exact List.mem_cons_self
    rw [text, hs] at hc
    cases hc
    exact isSpace_of_isNameChar (hchars _ hd)
  · -- the last character belongs to the name, or it is the closing parenthesis
    intro c hc
    rw [text] at hc
    cases harguments : f.arguments with
    | none =>
      rw [harguments, suffixText, List.append_nil] at hc
      exact isSpace_of_isNameChar (hchars c (List.mem_of_getLast? hc))
    | some as =>
      have htext : f.name.toList ++ suffixText (some as) =
          (f.name.toList ++ '(' :: argumentsText as) ++ [')'] := by
        simp [suffixText]
      rw [harguments, htext, List.getLast?_concat] at hc
      cases hc
      decide

/-- The arguments of a filter are read as what is meant. -/
theorem argumentsOf_argumentsText (as : List (Padded WrittenArgument)) :
    argumentsOf (argumentsText as) = as.map fun p => p.item.value := by
  by_cases hne : as = []
  · rw [hne]
    rfl
  · have hnotBlank : trim (argumentsText as) ≠ [] :=
      trim_separated_ne WrittenArgument.isTrimmed WrittenArgument.text_ne hne
    have hsplit : splitTopLevel [','] (argumentsText as) =
        as.map (Padded.text WrittenArgument.text) :=
      splitTopLevel_separated (by decide) (by decide) (by decide)
        (fun a => a.passes fun _ => rfl) hne
    rw [argumentsOf, if_neg hnotBlank, hsplit, List.map_map]
    refine List.map_congr_left fun p _ => ?_
    rw [Function.comp_apply, WrittenArgument.unquote_text, String.ofList_toList]

/-- A filter is read as what is meant. -/
theorem ofPart?_text (p : Padded WrittenFilter) :
    Invocation.ofPart? (p.text text) = some p.item.invocation := by
  obtain ⟨hne, hchars⟩ := p.item.isName
  -- the name ends where the filter does, or before the opening parenthesis
  have hstop : ∀ c, (suffixText p.item.arguments).head? = some c → isNameChar c = false := by
    intro c hc
    cases harguments : p.item.arguments with
    | none => rw [harguments] at hc; cases hc
    | some as =>
      rw [harguments] at hc
      cases hc
      decide
  have htake := takeWhile_span hchars hstop
  have hdrop := dropWhile_span hchars hstop
  simp only [Invocation.ofPart?, p.trim_text p.item.isTrimmed, text, htake, hdrop, hne, if_false,
    invocation, String.ofList_toList]
  cases p.item.arguments with
  | none => rfl
  | some as =>
    have hlast : (argumentsText as ++ [')']).getLast? = some ')' := List.getLast?_concat
    simp only [suffixText, hlast, and_self, if_true, List.dropLast_concat,
      argumentsOf_argumentsText, Option.getD_some]

end WrittenFilter

/-! ## Chains -/

namespace WrittenTag

theorem isChainText (fs : List (Padded WrittenFilter)) : ChainText (chainText fs) :=
  chainText_separated (by decide) (by decide) WrittenFilter.chainText fs

theorem trim_chainText_ne {fs : List (Padded WrittenFilter)} (hne : fs ≠ []) :
    trim (chainText fs) ≠ [] :=
  trim_separated_ne WrittenFilter.isTrimmed WrittenFilter.text_ne hne

/-- The filters of a chain are read as what is meant. -/
theorem chainFilters_chainText {fs : List (Padded WrittenFilter)} (hne : fs ≠ []) :
    chainFilters (chainText fs) = fs.map fun p => p.item.invocation := by
  have hsplit : splitTopLevel ['|'] (chainText fs) = fs.map (Padded.text WrittenFilter.text) :=
    splitTopLevel_separated (by decide) (by decide) (by decide) WrittenFilter.passes hne
  have hread : Invocation.ofPart? ∘ Padded.text WrittenFilter.text =
      fun p => some p.item.invocation := funext WrittenFilter.ofPart?_text
  rw [chainFilters, chainParts, if_neg (trim_chainText_ne hne), hsplit, List.filterMap_map, hread,
    List.filterMap_eq_map']

/-- White space before the first filter is left out of the chain. -/
theorem keptChain_chainText {fs : List (Padded WrittenFilter)} (hne : fs ≠ []) :
    ∃ gs, gs ≠ [] ∧ keptChain (chainText fs) = chainText gs ∧
      gs.map (fun p => p.item.invocation) = fs.map fun p => p.item.invocation := by
  obtain ⟨f, fs, rfl⟩ := List.exists_cons_of_ne_nil hne
  -- what is kept is the chain with the first filter written without white space before it
  let g : Padded WrittenFilter := { f with before := .empty }
  refine ⟨g :: fs, by simp, ?_, rfl⟩
  have htext : chainText (f :: fs) = f.before.text ++ chainText (g :: fs) :=
    joinWith_append_cons ['|'] f.before.text _ _
  have hitem : chainText (g :: fs) = f.item.text ++ joinWith ['|'] (f.after.text :: _) :=
    joinWith_append_cons ['|'] f.item.text f.after.text _
  obtain ⟨c, s, hs⟩ := List.exists_cons_of_ne_nil f.item.text_ne
  rw [hs, List.cons_append] at hitem
  have hstop : ∀ d, (chainText (g :: fs)).head? = some d → isSpace d = false := by
    intro d hd
    rw [hitem] at hd
    cases hd
    exact f.item.isTrimmed.first c (by rw [hs]; rfl)
  rw [keptChain, htext, dropWhile_span f.before.spaces hstop, hitem]

/-! ## Tags -/

theorem isTail (w : WrittenTag) : TagTail w.tailText := by
  unfold tailText
  split
  · exact TagTail.none
  · next h =>
    have hne : w.filters ≠ [] := by simpa using h
    refine TagTail.chain w.beforeBar.spaces ?_ (isChainText w.filters)
    intro hnil
    exact trim_chainText_ne hne (by rw [hnil]; rfl)

/-- The filters of the tail of a tag are read as what is meant. -/
theorem chainFilters_tailChain (w : WrittenTag) :
    chainFilters (tailChain w.tailText) = w.filters.map fun p => p.item.invocation := by
  unfold tailText
  split
  · next h =>
    have hnil : w.filters = [] := by simpa using h
    rw [hnil]
    rfl
  · next h =>
    have hne : w.filters ≠ [] := by simpa using h
    obtain ⟨gs, hgs, hkept, hmap⟩ := keptChain_chainText hne
    rw [tailChain_bar w.beforeBar.spaces, hkept, chainFilters_chainText hgs, hmap]

theorem pathText_ne (w : WrittenTag) : w.pathText ≠ [] := by
  obtain ⟨segment, hsegment⟩ := List.exists_mem_of_ne_nil _ w.path_ne
  obtain ⟨c, hc⟩ := List.exists_mem_of_ne_nil _ (w.segments segment hsegment).toList_ne
  exact List.ne_nil_of_mem (mem_joinWith (List.mem_map_of_mem hsegment) hc)

theorem isPathChar_pathText (w : WrittenTag) : ∀ c ∈ w.pathText, isPathChar c = true := by
  refine @joinWith_induction (fun s => ∀ c ∈ s, isPathChar c = true) (by simp)
    (fun _ _ hs ht => List.forall_mem_append.2 ⟨hs, ht⟩) ['.'] (by decide) _ fun part hpart => ?_
  obtain ⟨segment, hsegment, rfl⟩ := List.mem_map.1 hpart
  intro c hc
  rcases (w.segments segment hsegment).chars c hc with hword | hhyphen
  · simp [isPathChar, hword]
  · simp [isPathChar, hhyphen]

/-- The path is read as what is meant. -/
theorem segments_pathText (w : WrittenTag) : Tag.segments w.pathText = w.path := by
  have hplain : ∀ part ∈ w.path.map String.toList, '.' ∉ part := by
    intro part hpart
    obtain ⟨segment, hsegment, rfl⟩ := List.mem_map.1 hpart
    exact (w.segments segment hsegment).not_mem (by decide) (by decide)
  have hsplit : splitOn ['.'] w.pathText = w.path.map String.toList :=
    splitOn_joinWith (by simpa using w.path_ne) hplain
  have hfilter : (w.path.map String.toList).filter (· ≠ []) = w.path.map String.toList := by
    refine List.filter_eq_self.2 fun part hpart => ?_
    obtain ⟨segment, hsegment, rfl⟩ := List.mem_map.1 hpart
    simpa using (w.segments segment hsegment).toList_ne
  rw [Tag.segments, hsplit, hfilter, List.map_map]
  have hround : String.ofList ∘ String.toList = id := funext fun s => String.ofList_toList
  rw [hround, List.map_id]

end WrittenTag

/-! ## Every tag can be written -/

theorem WrittenArgument.exists_value {a : String} (h : ¬('\'' ∈ a.toList ∧ '"' ∈ a.toList)) :
    ∃ w : WrittenArgument, w.value = a := by
  by_cases hsingle : '\'' ∈ a.toList
  · exact ⟨double a fun hdouble => h ⟨hsingle, hdouble⟩, rfl⟩
  · exact ⟨single a hsingle, rfl⟩

/-- Something written without white space. -/
def Padded.bare {α : Type} (item : α) : Padded α := ⟨.empty, item, .empty⟩

/-- Whether a filter has a name and arguments that can be put in quotes. -/
structure IsWritable (f : Invocation) : Prop where
  isName : IsFilterName f.name
  args : ∀ a ∈ f.args, ¬('\'' ∈ a.toList ∧ '"' ∈ a.toList)

instance (f : Invocation) : Decidable (IsWritable f) :=
  decidable_of_iff (IsFilterName f.name ∧ ∀ a ∈ f.args, ¬('\'' ∈ a.toList ∧ '"' ∈ a.toList))
    ⟨fun h => ⟨h.1, h.2⟩, fun h => ⟨h.isName, h.args⟩⟩

theorem WrittenFilter.exists_invocation {f : Invocation} (h : IsWritable f) :
    ∃ w : WrittenFilter, w.invocation = f := by
  have hargs : f.args ∈ Set.range
      (List.map fun p : Padded WrittenArgument => p.item.value) := by
    rw [Set.range_list_map]
    intro a ha
    obtain ⟨w, hw⟩ := WrittenArgument.exists_value (h.args a ha)
    exact ⟨.bare w, hw⟩
  obtain ⟨ps, hps⟩ := hargs
  exact ⟨⟨f.name, h.isName, some ps⟩, by rw [invocation, Option.getD_some, hps]⟩

theorem WrittenTag.exists_writes {source : String} {path : List String} {filters : List Invocation}
    (hne : path ≠ []) (hpath : ∀ segment ∈ path, IsPlainWord segment)
    (hfilters : ∀ f ∈ filters, IsWritable f) :
    ∃ w : WrittenTag, w.Writes source path filters := by
  have hwritten : filters ∈ Set.range
      (List.map fun p : Padded WrittenFilter => p.item.invocation) := by
    rw [Set.range_list_map]
    intro f hf
    obtain ⟨w, hw⟩ := WrittenFilter.exists_invocation (hfilters f hf)
    exact ⟨.bare w, hw⟩
  obtain ⟨ps, hps⟩ := hwritten
  exact ⟨⟨source, path, hne, hpath, .empty, ps⟩, rfl, rfl, hps⟩

/-! ## Parsing undoes writing -/

/-- A tag can be written, and however it is written, with any white space around bars and commas
    and any quotes that its arguments allow, it is parsed as itself. -/
theorem parse?_written {names : List String} (hnames : ∀ name ∈ names, IsPlainWord name)
    {source : String} {path : List String} {filters : List Invocation} (hsource : source ∈ names)
    (hne : path ≠ []) (hpath : ∀ segment ∈ path, IsPlainWord segment)
    (hfilters : ∀ f ∈ filters, IsWritable f) :
    (∃ w : WrittenTag, w.Writes source path filters) ∧
    ∀ w : WrittenTag, w.Writes source path filters → ∀ position,
      Tag.parse? (Keywords.ofListOrStandard names) w.text position =
        some ⟨source, path, filters, w.text, position⟩ := by
  refine ⟨WrittenTag.exists_writes hne hpath hfilters, ?_⟩
  rintro w ⟨rfl, rfl, rfl⟩ position
  have hks := Keywords.spells_ofListOrStandard hnames
  rw [Keywords.namesInUse_of_ne (List.ne_nil_of_mem hsource)] at hks
  have hparts : TagParts names w.source.toList w.pathText w.tailText :=
    ⟨⟨w.source, hsource, rfl⟩, w.pathText_ne, w.isPathChar_pathText, w.isTail⟩
  have hread := (tagForm?_eq_some_iff hks).2 (hparts.mem_tagForms hks [])
  have hparse := Tag.parse?_of_tagForm? hread position
  rw [Tag.ofForm, w.segments_pathText, w.chainFilters_tailChain, String.ofList_toList] at hparse
  exact hparse

/-- A tag with percent signs, bars, commas, parentheses and line breaks inside its arguments. -/
def quotedTag : WrittenTag where
  source := "custom-field"
  path := ["tags", "a-b"]
  path_ne := by simp
  segments := by decide
  beforeBar := ⟨[' '], by decide⟩
  filters :=
    [⟨.empty, ⟨"join", by decide, some [.bare (.single "50%" (by decide)),
        ⟨⟨[' '], by decide⟩, .double " |," (by decide), ⟨[' '], by decide⟩⟩,
        .bare (.single "" (by decide))]⟩, ⟨['\n'], by decide⟩⟩,
      ⟨⟨[' '], by decide⟩, ⟨"upper", by decide, none⟩, .empty⟩,
      .bare ⟨"default", by decide, some [.bare (.double "it's (n,\n" (by decide))]⟩]

theorem parse?_written_quotedTag :
    quotedTag.text =
        "%custom-field:tags.a-b |join('50%', \" |,\" ,'')\n| upper|default(\"it's (n,\n\")%".toList ∧
      (∀ name ∈ ["custom", "custom-field"], IsPlainWord name) ∧
      (∀ segment ∈ ["tags", "a-b"], IsPlainWord segment) ∧
      (∀ f ∈ quotedTag.filters.map fun p => p.item.invocation, IsWritable f) ∧
      Tag.parse? (Keywords.ofListOrStandard ["custom", "custom-field"]) quotedTag.text 7 =
        some ⟨"custom-field", ["tags", "a-b"],
          [⟨"join", ["50%", " |,", ""]⟩, ⟨"upper", []⟩, ⟨"default", ["it's (n,\n"]⟩],
          quotedTag.text, 7⟩ := by
  have hnames : ∀ name ∈ ["custom", "custom-field"], IsPlainWord name := by decide
  have hpath : ∀ segment ∈ ["tags", "a-b"], IsPlainWord segment := by decide
  have hfilters : ∀ f ∈ quotedTag.filters.map fun p => p.item.invocation, IsWritable f := by
    decide
  have hparse := (parse?_written hnames (by decide) quotedTag.path_ne hpath hfilters).2 quotedTag
    ⟨rfl, rfl, rfl⟩ 7
  exact ⟨by decide, hnames, hpath, hfilters, hparse⟩

end RecordTemplate.Template
