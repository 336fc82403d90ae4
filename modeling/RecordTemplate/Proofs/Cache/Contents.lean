/-
  RecordTemplate.Proofs.Cache.Contents

  What a cache would serve at a moment, whichever of its two stores is in use
  (`OutputCache.contents`), and all that an operation can do to it (`Sound.performs`).  As
  long as the remote store is in use nothing is kept in memory, so the cache is empty when it
  falls back on its memory, whatever the remote store has done by then.
-/

import Mathlib.Algebra.Order.Ring.Unbundled.Rat
import RecordTemplate.Cache.Output

namespace RecordTemplate.Cache

variable {σ : Type}

/-! ## Contents -/

/-- What is under a key at a moment, unless something happens before. -/
abbrev Contents := Moment → String → Option Value

namespace Contents

def empty : Contents := fun _ _ => none

/-- The contents after a text has been stored under a key for a number of seconds. -/
def put (shown : Contents) (t : Moment) (seconds : Int) (key html : String) : Contents :=
  fun t' k =>
    if k = key then (if t' < t + seconds then some (.text html) else none) else shown t' k

theorem put_self (shown : Contents) (t : Moment) (seconds : Int) (key html : String)
    (t' : Moment) : shown.put t seconds key html t' key =
      if t' < t + seconds then some (.text html) else none :=
  if_pos rfl

theorem put_of_ne (shown : Contents) (t : Moment) (seconds : Int) {key k : String}
    (html : String) (t' : Moment) (h : k ≠ key) :
    shown.put t seconds key html t' k = shown t' k :=
  if_neg h

end Contents

/-- The contents of a list of entries. -/
def entriesShown (es : List Entry) : Contents :=
  fun t key => ((es.find? (·.key = key)).filter (t < ·.expiresAt)).map Entry.html

theorem entriesShown_eq_some {es : List Entry} {t : Moment} {key : String} {v : Value} :
    entriesShown es t key = some v ↔
      ∃ e, es.find? (·.key = key) = some e ∧ t < e.expiresAt ∧ e.html = v := by
  simp [entriesShown, Option.map_eq_some_iff, Option.filter_eq_some_iff, and_assoc]

/-- Leaving entries out shows nothing under their keys, and other keys as before. -/
theorem entriesShown_filter (es : List Entry) (keep : String → Bool) (t : Moment) (key : String) :
    entriesShown (es.filter fun e => keep e.key) t key =
      if keep key then entriesShown es t key else none := by
  unfold entriesShown
  rw [List.find?_filter]
  cases hkeep : keep key with
  | true =>
    congr 3
    funext e
    by_cases he : e.key = key <;> simp [he, hkeep]
  | false =>
    have hnone : (es.find? fun e => keep e.key && decide (e.key = key)) = none := by
      rw [List.find?_eq_none]
      rintro e - he
      simp only [Bool.and_eq_true, decide_eq_true_eq] at he
      rw [he.2, hkeep] at he
      exact Bool.false_ne_true he.1
    simp [hnone]

theorem entriesShown_insertEntry (es : List Entry) (e : Entry) (t : Moment) (key : String) :
    entriesShown (OutputCache.insertEntry e es) t key =
      if key = e.key then (if t < e.expiresAt then some e.html else none)
      else entriesShown es t key := by
  unfold OutputCache.insertEntry
  by_cases hkey : key = e.key
  · have hnone : (es.filter (·.key ≠ e.key)).find? (·.key = key) = none := by
      simp [List.find?_eq_none, hkey]
    rw [if_pos hkey, entriesShown, List.find?_append, hnone, Option.none_or]
    by_cases ht : t < e.expiresAt
    · simp [hkey, ht]
    · simp [hkey, ht, not_lt.1 ht]
  · have hother : [e].find? (·.key = key) = none := by simp [Ne.symm hkey]
    rw [if_neg hkey, entriesShown, List.find?_append, hother, Option.or_none]
    have hfilter := entriesShown_filter es (· ≠ e.key) t key
    simpa [hkey, entriesShown] using hfilter

/-! ## Remote stores -/

/-- What a cache expects of its remote store: it keeps texts under keys for the number of seconds
    for which they are stored.  `shown` are its contents; nothing is said about calls that fail. -/
structure KeepsTexts (store : RemoteStore σ) (shown : σ → Contents) : Prop where
  /-- What has expired does not come back. -/
  expired {s : σ} {t t' : Moment} {key : String} :
    shown s t key = none → t ≤ t' → shown s t' key = none
  get {t : Moment} {key : String} {s s' : σ} {found : Option Value} :
    store.get t key s = (.ok found, s') →
      found = shown s t key ∧ ∀ t' k, t ≤ t' → shown s' t' k = shown s t' k
  setFor {t : Moment} {key html : String} {seconds : Int} {s s' : σ} :
    store.setFor t key seconds (.text html) s = (.ok (), s') →
      ∀ t' k, t ≤ t' → shown s' t' k = (shown s).put t seconds key html t' k
  keysFrom {t : Moment} {start : String} {s s' : σ} {keys : List String} :
    store.keysFrom t start s = (.ok keys, s') →
      (∀ key, (shown s t (start ++ key)).isSome → start ++ key ∈ keys) ∧
        ∀ t' k, t ≤ t' → shown s' t' k = shown s t' k
  delete {t : Moment} {keys : List String} {s s' : σ} {count : Nat} :
    store.delete t keys s = (.ok count, s') →
      ∀ t' k, t ≤ t' → shown s' t' k = if k ∈ keys then none else shown s t' k

/-- Entries outside the program, and for every call to come whether it fails.  A call that fails
    is made nevertheless. -/
structure Shelf where
  entries : List Entry
  failing : List Bool

namespace Shelf

/-- One call: its answer unless it fails, and the entries afterwards. -/
def call {α : Type} (s : Shelf) (answer : α) (es : List Entry) : Except String α × Shelf :=
  (if s.failing.headD false then .error "Connection refused." else .ok answer,
    ⟨es, s.failing.tail⟩)

theorem of_call {α : Type} {s s' : Shelf} {answer answer' : α} {es : List Entry}
    (h : s.call answer es = (.ok answer', s')) : answer' = answer ∧ s'.entries = es := by
  obtain ⟨hanswer, rfl⟩ := Prod.mk.inj h
  split at hanswer
  · cases hanswer
  · cases hanswer
    exact ⟨rfl, rfl⟩

/-- A remote store on a shelf. -/
def store : RemoteStore Shelf where
  ping s := s.call () s.entries
  get t key s := s.call (entriesShown s.entries t key) s.entries
  setFor t key seconds html s :=
    s.call () (OutputCache.insertEntry ⟨key, t + seconds, html⟩ s.entries)
  keysFrom _ start s :=
    s.call ((s.entries.map Entry.key).filter (start.toList.isPrefixOf ·.toList)) s.entries
  delete _ keys s :=
    s.call (s.entries.filter (·.key ∈ keys)).length (s.entries.filter (·.key ∉ keys))

theorem store_keepsTexts : KeepsTexts store (entriesShown ·.entries) where
  expired {s t t' key} hnone ht := by
    rw [Option.eq_none_iff_forall_ne_some] at hnone ⊢
    intro v hv
    obtain ⟨e, hfind, hlives, hhtml⟩ := entriesShown_eq_some.1 hv
    exact hnone v (entriesShown_eq_some.2 ⟨e, hfind, ht.trans_lt hlives, hhtml⟩)
  get h := by
    obtain ⟨rfl, hes⟩ := of_call h
    exact ⟨rfl, fun _ _ _ => by rw [hes]⟩
  setFor {t key html seconds s s'} h t' k _ := by
    rw [(of_call h).2, entriesShown_insertEntry]
    rfl
  keysFrom {t start s s' keys} h := by
    obtain ⟨rfl, hes⟩ := of_call h
    refine ⟨fun key hkey => ?_, fun _ _ _ => by rw [hes]⟩
    obtain ⟨v, hv⟩ := Option.isSome_iff_exists.1 hkey
    obtain ⟨e, hfind, -⟩ := entriesShown_eq_some.1 hv
    have hmem : start ++ key ∈ s.entries.map Entry.key :=
      List.mem_map.2 ⟨e, List.mem_of_find?_eq_some hfind, by simpa using List.find?_some hfind⟩
    exact List.mem_filter.2 ⟨hmem, by simp [String.toList_append]⟩
  delete {t keys s s' count} h t' k _ := by
    rw [(of_call h).2, entriesShown_filter s.entries (· ∉ keys)]
    by_cases hk : k ∈ keys <;> simp [hk]

end Shelf

/-! ## Operations -/

/-- What a cache can be asked for. -/
inductive Operation where
  | get (key : String)
  | set (key html : String)
  | clear

/-- What an operation does to the contents. -/
def Operation.effect (seconds : Int) (t : Moment) (op : Operation) (shown : Contents) : Contents :=
  match op with
  | get _ => shown
  | set key html => shown.put t seconds key html
  | clear => .empty

/-- An operation that neither stores under a key nor removes what is there. -/
def Operation.Spares (key : String) : Operation → Prop
  | get _ => True
  | set k _ => k ≠ key
  | clear => False

instance (key : String) (op : Operation) : Decidable (op.Spares key) :=
  match op with
  | .get _ => .isTrue trivial
  | .set k _ => inferInstanceAs (Decidable (k ≠ key))
  | .clear => .isFalse id

theorem Operation.effect_of_spares {key : String} {op : Operation} (h : op.Spares key)
    (seconds : Int) (t : Moment) (shown : Contents) (t' : Moment) :
    op.effect seconds t shown t' key = shown t' key := by
  cases op with
  | get k => rfl
  | set k html => exact shown.put_of_ne t seconds html t' (Ne.symm h)
  | clear => exact h.elim

namespace OutputCache

/-- One operation at a moment: what it answers, and the cache afterwards. -/
def perform (c : OutputCache σ) (t : Moment) : Operation → Option Value × OutputCache σ
  | .get key => ((c.get t key).1, (c.get t key).2.1)
  | .set key html => (none, (c.set t key (.text html)).1)
  | .clear => (none, (c.clear t).2.1)

/-- What the cache would answer for a key at a moment. -/
def contents (shown : σ → Contents) (c : OutputCache σ) : Contents :=
  fun t key =>
    if c.connected then shown c.remote t (keyStart ++ key)
    else entriesShown c.entries t (keyStart ++ key)

/-- The remote store is in use and a call of an operation to it fails. -/
def Raises (c : OutputCache σ) (t : Moment) (op : Operation) : Prop :=
  c.connected = true ∧
    match op with
    | .get key => ∃ message s, c.store.get t (keyStart ++ key) c.remote = (.error message, s)
    | .set key html =>
      ∃ message s,
        c.store.setFor t (keyStart ++ key) c.expiration (.text html) c.remote = (.error message, s)
    | .clear =>
      (∃ message s, c.store.keysFrom t keyStart c.remote = (.error message, s)) ∨
        ∃ keys s message s', c.store.keysFrom t keyStart c.remote = (.ok keys, s) ∧ keys ≠ [] ∧
          c.store.delete t keys s = (.error message, s')

/-- Nothing is kept in memory while the remote store is in use, and that store does what it
    should. -/
structure Sound (shown : σ → Contents) (c : OutputCache σ) : Prop where
  store : c.connected = true → KeepsTexts c.store shown
  noEntries : c.connected = true → c.entries = []

/-- All that an operation can do at a moment: the cache answers from its contents, which change
    as they should.  But if the remote store is given up, they are lost first. -/
structure Performs (shown : σ → Contents) (c : OutputCache σ) (t : Moment) (op : Operation)
    (answer : Option Value) (c' : OutputCache σ) : Prop where
  expiration : c'.expiration = c.expiration
  enabled : c'.enabled = c.enabled
  store : c'.store = c.store
  sound : c'.Sound shown
  connected : c'.connected = true ↔ c.connected = true ∧ ¬ c.Raises t op
  /-- A remote store that has been given up is not called. -/
  remote : c.connected = false → c'.remote = c.remote
  contents : ∀ t' key, t ≤ t' → c'.contents shown t' key =
    op.effect c.expiration t (if c'.connected = c.connected then c.contents shown else .empty)
      t' key
  answer : ∀ key, op = .get key → answer = c'.contents shown t key

variable {shown : σ → Contents} {c : OutputCache σ} {t : Moment} {key html : String}

/-! ## Operations in memory -/

theorem contents_of_connected (h : c.connected = true) (t : Moment) (key : String) :
    c.contents shown t key = shown c.remote t (keyStart ++ key) :=
  if_pos h

theorem contents_of_not_connected (h : c.connected = false) (t : Moment) (key : String) :
    c.contents shown t key = entriesShown c.entries t (keyStart ++ key) :=
  if_neg (by simp [h])

/-- Looking into the memory removes at most what has expired. -/
theorem getLocal_spec (c : OutputCache σ) (t : Moment) (fullKey : String) :
    (c.getLocal t fullKey).1 = entriesShown c.entries t fullKey ∧
      ∃ es, (c.getLocal t fullKey).2 = { c with entries := es } ∧
        ∀ t' k, t ≤ t' → entriesShown es t' k = entriesShown c.entries t' k := by
  cases hfind : c.entries.find? (·.key = fullKey) with
  | none =>
    simp only [getLocal, hfind]
    exact ⟨by simp [entriesShown, hfind], c.entries, rfl, fun _ _ _ => rfl⟩
  | some e =>
    by_cases hexpired : e.expiresAt ≤ t
    · simp only [getLocal, hfind, if_pos hexpired]
      refine ⟨by simp [entriesShown, hfind, hexpired], _, rfl, fun t' k ht => ?_⟩
      have hfilter := entriesShown_filter c.entries (· ≠ fullKey) t' k
      by_cases hk : k = fullKey
      · -- the entry that is left out has expired by then as well
        subst hk
        have : entriesShown c.entries t' k = none := by
          simp [entriesShown, hfind, le_trans hexpired ht]
        simpa [this] using hfilter
      · simpa [hk] using hfilter
    · simp only [getLocal, hfind, if_neg hexpired]
      exact ⟨by simp [entriesShown, hfind, not_le.1 hexpired], c.entries, rfl, fun _ _ _ => rfl⟩

theorem entriesShown_setLocal (c : OutputCache σ) (t : Moment) (key html : String)
    (t' : Moment) (k : String) :
    entriesShown (c.setLocal t (keyStart ++ key) (.text html)).entries t' (keyStart ++ k) =
      Contents.put (fun t' k => entriesShown c.entries t' (keyStart ++ k)) t c.expiration key html
        t' k := by
  rw [setLocal, entriesShown_insertEntry]
  unfold Contents.put
  simp only [String.append_right_inj]

/-! ## One operation -/

/-- Looking into the memory of a cache that does not use its remote store. -/
theorem Sound.performs_getLocal (h : c.Sound shown) (hoff : c.connected = false) :
    Performs shown c t (.get key) (c.getLocal t (keyStart ++ key)).1
      (c.getLocal t (keyStart ++ key)).2 := by
  obtain ⟨hanswer, es, heq, hes⟩ := getLocal_spec c t (keyStart ++ key)
  rw [heq, hanswer]
  have hcontents (t' : Moment) (k : String) (ht : t ≤ t') :
      contents shown { c with entries := es } t' k = c.contents shown t' k := by
    rw [contents_of_not_connected hoff,
      contents_of_not_connected (c := { c with entries := es }) hoff]
    exact hes t' _ ht
  refine ⟨rfl, rfl, rfl, ⟨h.store, by simp [hoff]⟩, by simp [hoff], fun _ => rfl, ?_, ?_⟩
  · intro t' k ht
    simpa [Operation.effect] using hcontents t' k ht
  · rintro k ⟨rfl⟩
    rw [hcontents t key le_rfl, contents_of_not_connected hoff]

theorem Sound.performs_setLocal (h : c.Sound shown) (hoff : c.connected = false) :
    Performs shown c t (.set key html) none (c.setLocal t (keyStart ++ key) (.text html)) := by
  refine ⟨rfl, rfl, rfl, ⟨h.store, by simp [setLocal, hoff]⟩, by simp [setLocal, hoff],
    fun _ => rfl, ?_, by simp⟩
  intro t' k _
  rw [contents_of_not_connected (by exact hoff), entriesShown_setLocal]
  simp only [Operation.effect, setLocal, if_pos]
  congr 1
  funext t' k
  exact (contents_of_not_connected hoff t' k).symm

theorem Sound.performs_forget (h : c.Sound shown) (hoff : c.connected = false) :
    Performs shown c t .clear none { c with entries := [] } := by
  refine ⟨rfl, rfl, rfl, ⟨h.store, by simp⟩, by simp [hoff], fun _ => rfl, ?_, by simp⟩
  intro t' k _
  rw [contents_of_not_connected (by exact hoff)]
  rfl

/-- What is done without the remote store after it has failed, is done by the operation. -/
theorem Sound.performs_of_raises {s : σ} {op : Operation} {answer : Option Value}
    {c' : OutputCache σ} (h : c.Sound shown) (hraises : c.Raises t op)
    (hdone : ({ c with remote := s, connected := false } : OutputCache σ).Sound shown →
      Performs shown { c with remote := s, connected := false } t op answer c') :
    Performs shown c t op answer c' := by
  have hdone := hdone ⟨by simp, by simp⟩
  have hoff : c'.connected = false := by simpa using hdone.connected
  refine ⟨hdone.expiration, hdone.enabled, hdone.store, hdone.sound, by simp [hoff, hraises],
    by simp [hraises.1], ?_, hdone.answer⟩
  intro t' k ht
  have hempty : contents shown { c with remote := s, connected := false } = .empty := by
    funext t' k
    rw [contents_of_not_connected rfl, h.noEntries hraises.1]
    rfl
  have hcontents := hdone.contents t' k ht
  rw [hempty, ite_self] at hcontents
  rw [hcontents, if_neg (by simp [hoff, hraises.1])]

/-- What the remote store does without failing is done by the operation. -/
theorem Sound.performs_of_answered {s : σ} {op : Operation} {answer : Option Value}
    (h : c.Sound shown) (hon : c.connected = true) (hraises : ¬ c.Raises t op)
    (hcontents : ∀ t' k, t ≤ t' → contents shown { c with remote := s } t' k =
      op.effect c.expiration t (c.contents shown) t' k)
    (hanswer : ∀ key, op = .get key → answer = c.contents shown t key) :
    Performs shown c t op answer { c with remote := s } := by
  refine ⟨rfl, rfl, rfl, ⟨h.store, h.noEntries⟩, by simp [hon, hraises], by simp [hon],
    by simpa using hcontents, ?_⟩
  rintro k rfl
  rw [hcontents t k le_rfl]
  exact hanswer k rfl

theorem Sound.performs_get (h : c.Sound shown) (t : Moment) (key : String) :
    Performs shown c t (.get key) (c.get t key).1 (c.get t key).2.1 := by
  unfold OutputCache.get
  by_cases hon : c.connected = true
  · simp only [if_pos hon]
    rcases hcall : c.store.get t (keyStart ++ key) c.remote with ⟨message | found, s⟩
    · exact h.performs_of_raises ⟨hon, _, _, hcall⟩ (·.performs_getLocal rfl)
    · obtain ⟨hfound, hshown⟩ := (h.store hon).get hcall
      refine h.performs_of_answered hon ?_ (fun t' k ht => ?_) ?_
      · rintro ⟨-, _, _, hfails⟩
        cases hcall.symm.trans hfails
      · rw [contents_of_connected (by exact hon), hshown t' _ ht]
        exact (contents_of_connected hon t' k).symm
      · rintro k ⟨rfl⟩
        rw [contents_of_connected hon, hfound]
  · simp only [if_neg hon]
    exact h.performs_getLocal (Bool.eq_false_iff.2 hon)

theorem Sound.performs_set (h : c.Sound shown) (t : Moment) (key html : String) :
    Performs shown c t (.set key html) none (c.set t key (.text html)).1 := by
  unfold OutputCache.set
  by_cases hon : c.connected = true
  · simp only [if_pos hon]
    rcases hcall : c.store.setFor t (keyStart ++ key) c.expiration (.text html) c.remote with
      ⟨message | ⟨⟩, s⟩
    · exact h.performs_of_raises ⟨hon, _, _, hcall⟩ (·.performs_setLocal rfl)
    · have hshown := (h.store hon).setFor hcall
      refine h.performs_of_answered hon ?_ (fun t' k ht => ?_) (by simp)
      · rintro ⟨-, _, _, hfails⟩
        cases hcall.symm.trans hfails
      · rw [contents_of_connected (by exact hon), hshown t' _ ht]
        simp only [Operation.effect, Contents.put, String.append_right_inj,
          contents_of_connected hon]
  · simp only [if_neg hon]
    exact h.performs_setLocal (Bool.eq_false_iff.2 hon)

/-- A remote store that fails while it is cleared leaves nothing behind. -/
theorem Sound.performs_clear_of_raises (h : c.Sound shown) (hraises : c.Raises t .clear) (s : σ) :
    Performs shown c t .clear none { c with remote := s, connected := false } :=
  h.performs_of_raises hraises fun hfallen => by
    simpa only [h.noEntries hraises.1] using hfallen.performs_forget rfl

/-- A remote store shows nothing once the keys are deleted that it has for this cache. -/
theorem Sound.performs_clear_of_answered {s : σ} (h : c.Sound shown) (hon : c.connected = true)
    (hraises : ¬ c.Raises t .clear)
    (hshown : ∀ t' key, t ≤ t' → shown s t' (keyStart ++ key) = none) :
    Performs shown c t .clear none { c with remote := s } :=
  h.performs_of_answered hon hraises
    (fun t' k ht => (contents_of_connected (by exact hon) t' k).trans (hshown t' k ht)) (by simp)

theorem Sound.performs_clearRemote (h : c.Sound shown) (hon : c.connected = true) (t : Moment) :
    Performs shown c t .clear none (c.clearRemote t).2.1 := by
  have hstore := h.store hon
  unfold clearRemote
  rcases hkeys : c.store.keysFrom t keyStart c.remote with ⟨message | keys, s⟩
  · exact h.performs_clear_of_raises ⟨hon, .inl ⟨_, _, hkeys⟩⟩ s
  · obtain ⟨hall, hshown⟩ := hstore.keysFrom hkeys
    -- what is not among the keys is not shown now, and will not be
    have hnone (t' : Moment) (key : String) (ht : t ≤ t') (hkey : keyStart ++ key ∉ keys) :
        shown s t' (keyStart ++ key) = none := by
      rw [hshown t' _ ht]
      exact hstore.expired (by simpa using mt (hall key) hkey) ht
    cases keys with
    | nil =>
      refine h.performs_clear_of_answered hon ?_ fun t' key ht => hnone t' key ht (by simp)
      rintro ⟨-, ⟨_, _, hfails⟩ | ⟨_, _, _, _, hkeys', hne, -⟩⟩
      · cases hkeys.symm.trans hfails
      · cases hkeys.symm.trans hkeys'
        exact hne rfl
    | cons key keys =>
      dsimp only
      rcases hdelete : c.store.delete t (key :: keys) s with ⟨message | n, s'⟩
      · exact h.performs_clear_of_raises
          ⟨hon, .inr ⟨_, _, _, _, hkeys, by simp, hdelete⟩⟩ s'
      · refine h.performs_clear_of_answered hon ?_ fun t' k ht => ?_
        · rintro ⟨-, ⟨_, _, hfails⟩ | ⟨_, _, _, _, hkeys', -, hfails⟩⟩
          · cases hkeys.symm.trans hfails
          · cases hkeys.symm.trans hkeys'
            cases hdelete.symm.trans hfails
        · rw [hstore.delete hdelete t' _ ht]
          split
          · rfl
          · exact hnone t' k ht ‹_›

theorem Sound.performs_clear (h : c.Sound shown) (t : Moment) :
    Performs shown c t .clear none (c.clear t).2.1 := by
  unfold OutputCache.clear
  by_cases hon : c.connected = true
  · have hforget : ({ c with entries := [] } : OutputCache σ) = c := by rw [← h.noEntries hon]
    simp only [if_pos hon, hforget]
    exact h.performs_clearRemote hon t
  · simp only [if_neg hon]
    exact h.performs_forget (Bool.eq_false_iff.2 hon)

/-- All that one operation does. -/
theorem Sound.performs (h : c.Sound shown) (t : Moment) (op : Operation) :
    Performs shown c t op (c.perform t op).1 (c.perform t op).2 := by
  cases op with
  | get key => exact h.performs_get t key
  | set key html => exact h.performs_set t key html
  | clear => exact h.performs_clear t

end OutputCache
end RecordTemplate.Cache
