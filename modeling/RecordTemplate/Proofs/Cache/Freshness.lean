/-
  RecordTemplate.Proofs.Cache.Freshness

  Runs of operations on a cache (`OutputCache.after`).  What it serves is what was stored last
  under the key, if that is neither cleared nor expired (`IsLatest`); it serves nothing else,
  and it serves it unless the remote store has failed since.  A remote store that has failed is
  not used any more, and keys do not mix.
-/

import Mathlib
import RecordTemplate.Proofs.Cache.Contents

namespace RecordTemplate.Cache

variable {σ : Type}

/-! ## Histories -/

/-- Operations with the moments at which they are made. -/
abbrev History := List (Moment × Operation)

/-- The clock does not go back. -/
def History.InOrder (h : History) : Prop := (h.map Prod.fst).Pairwise (· ≤ ·)

instance (h : History) : Decidable h.InOrder :=
  inferInstanceAs (Decidable (List.Pairwise _ _))

theorem History.InOrder.le {h : History} {t : Moment} {op : Operation}
    (horder : History.InOrder (h ++ [(t, op)])) : ∀ step ∈ h, step.1 ≤ t := by
  intro step hstep
  rw [History.InOrder, List.map_append, List.pairwise_append] at horder
  exact horder.2.2 step.1 (List.mem_map_of_mem hstep) t (by simp)

/-- No step of a history stores under a key or removes what is there. -/
def History.Spares (h : History) (key : String) : Prop := ∀ step ∈ h, step.2.Spares key

instance (h : History) (key : String) : Decidable (h.Spares key) :=
  inferInstanceAs (Decidable (∀ step ∈ h, step.2.Spares key))

/-- A step stores a text under a key, and what is done after it spares the key. -/
structure IsLatest (h before : History) (t : Moment) (key html : String) (since : History) :
    Prop where
  split : h = before ++ (t, .set key html) :: since
  spared : since.Spares key

/-! ## Contents along a history -/

/-- What a history does to the contents. -/
def Contents.afterwards (seconds : Int) (shown : Contents) (h : History) : Contents :=
  h.foldl (fun shown step => step.2.effect seconds step.1 shown) shown

namespace Contents

variable {seconds : Int} {shown shown' : Contents} {t : Moment} {key : String}

/-- Contents of which some may have been lost. -/
def Lost (shown shown' : Contents) (t : Moment) (key : String) : Prop :=
  shown t key = none ∨ shown t key = shown' t key

theorem Lost.trans {shown'' : Contents} (h : Lost shown shown' t key)
    (h' : Lost shown' shown'' t key) : Lost shown shown'' t key := by
  obtain hnone | heq := h
  · exact .inl hnone
  · unfold Lost
    rwa [heq]

theorem Lost.effect (h : Lost shown shown' t key) (t₀ : Moment) (op : Operation) :
    Lost (op.effect seconds t₀ shown) (op.effect seconds t₀ shown') t key := by
  cases op with
  | get k => exact h
  | clear => exact .inl rfl
  | set k html =>
    by_cases hk : key = k
    · exact .inr (by simp only [Operation.effect, hk, put_self])
    · simpa only [Lost, Operation.effect, put_of_ne _ _ _ _ _ hk] using h

theorem Lost.afterwards (hlost : Lost shown shown' t key) (h : History) :
    Lost (shown.afterwards seconds h) (shown'.afterwards seconds h) t key := by
  induction h generalizing shown shown' with
  | nil => exact hlost
  | cons step h ih => exact ih (hlost.effect step.1 step.2)

theorem effect_congr (h : shown t key = shown' t key) (t₀ : Moment) (op : Operation) :
    op.effect seconds t₀ shown t key = op.effect seconds t₀ shown' t key := by
  cases op with
  | get k => exact h
  | clear => rfl
  | set k html => simp only [Operation.effect, put, h]

theorem afterwards_congr (heq : shown t key = shown' t key) (h : History) :
    shown.afterwards seconds h t key = shown'.afterwards seconds h t key := by
  induction h generalizing shown shown' with
  | nil => exact heq
  | cons step h ih => exact ih (effect_congr heq step.1 step.2)

theorem afterwards_of_spares {h : History} (hspared : h.Spares key) :
    shown.afterwards seconds h t key = shown t key := by
  induction h generalizing shown with
  | nil => rfl
  | cons step h ih =>
    have hstep : step.2.Spares key := hspared step (List.mem_cons_self ..)
    exact (ih fun s hs => hspared s (List.mem_cons_of_mem _ hs)).trans
      (Operation.effect_of_spares hstep ..)

/-- What is there after a history was stored by its latest step for the key, or before. -/
theorem eq_of_afterwards {h : History} {v : Value}
    (hv : shown.afterwards seconds h t key = some v) :
    (∃ before t₀ html since, IsLatest h before t₀ key html since ∧ t < t₀ + seconds ∧
        v = .text html) ∨ (h.Spares key ∧ shown t key = some v) := by
  induction h generalizing shown with
  | nil => exact .inr ⟨by simp [History.Spares], hv⟩
  | cons step h ih =>
    obtain ⟨t₁, op⟩ := step
    obtain ⟨before, t₀, html, since, hlatest, hlives⟩ | ⟨hspared, hbefore⟩ := ih hv
    · exact .inl ⟨(t₁, op) :: before, t₀, html, since, ⟨by rw [hlatest.split]; rfl,
        hlatest.spared⟩, hlives⟩
    · cases op with
      | get k => exact .inr ⟨List.forall_mem_cons.2 ⟨trivial, hspared⟩, hbefore⟩
      | clear => cases hbefore
      | set k html =>
        by_cases hk : key = k
        · subst hk
          simp only [Operation.effect, put_self] at hbefore
          split at hbefore
          · cases hbefore
            exact .inl ⟨[], t₁, html, h, ⟨rfl, hspared⟩, ‹_›, rfl⟩
          · cases hbefore
        · simp only [Operation.effect, put_of_ne _ _ _ _ _ hk] at hbefore
          exact .inr ⟨List.forall_mem_cons.2 ⟨Ne.symm hk, hspared⟩, hbefore⟩

end Contents

namespace OutputCache

/-! ## One step -/

section Step

variable {shown : σ → Contents} {c c' : OutputCache σ} {t t' : Moment} {op : Operation}
  {answer : Option Value} {key : String}

theorem Performs.lost (h : Performs shown c t op answer c') (ht : t ≤ t') (key : String) :
    Contents.Lost (c'.contents shown) (op.effect c.expiration t (c.contents shown)) t' key := by
  have hlost : Contents.Lost
      (if c'.connected = c.connected then c.contents shown else .empty) (c.contents shown)
      t' key := by
    split
    · exact .inr rfl
    · exact .inl rfl
  unfold Contents.Lost
  rw [h.contents t' key ht]
  exact hlost.effect t op

theorem Performs.contents_of_not_raises (h : Performs shown c t op answer c')
    (hraises : ¬ c.Raises t op) (ht : t ≤ t') :
    c'.contents shown t' key = op.effect c.expiration t (c.contents shown) t' key := by
  have hconnected : c'.connected = c.connected := by
    rw [Bool.eq_iff_iff, h.connected, and_iff_left hraises]
  rw [h.contents t' key ht, if_pos hconnected]

end Step

/-! ## Runs -/

/-- The cache after a history. -/
def after (c : OutputCache σ) (h : History) : OutputCache σ :=
  h.foldl (fun c step => (c.perform step.1 step.2).2) c

/-- What a cache answers along a history. -/
def answers (c : OutputCache σ) : History → List (Option Value)
  | [] => []
  | (t, op) :: h => (c.perform t op).1 :: (c.perform t op).2.answers h

/-- The remote store fails during one of the operations of a history. -/
def RaisesIn (c : OutputCache σ) : History → Prop
  | [] => False
  | (t, op) :: h => c.Raises t op ∨ (c.perform t op).2.RaisesIn h

variable {shown : σ → Contents} {c : OutputCache σ} {h h' : History} {t : Moment} {key : String}

theorem after_append (c : OutputCache σ) (h h' : History) :
    c.after (h ++ h') = (c.after h).after h' :=
  List.foldl_append

theorem raisesIn_append : c.RaisesIn (h ++ h') ↔ c.RaisesIn h ∨ (c.after h).RaisesIn h' := by
  induction h generalizing c with
  | nil => simp [RaisesIn, after]
  | cons step h ih =>
    simp only [List.cons_append, RaisesIn, ih, or_assoc]
    rfl

/-- What a run preserves. -/
theorem Sound.after (hc : c.Sound shown) (h : History) :
    (c.after h).Sound shown ∧ (c.after h).expiration = c.expiration := by
  induction h generalizing c with
  | nil => exact ⟨hc, rfl⟩
  | cons step h ih =>
    have hstep := hc.performs step.1 step.2
    exact ⟨(ih hstep.sound).1, (ih hstep.sound).2.trans hstep.expiration⟩

/-- The remote store is in use until it fails. -/
theorem Sound.connected_after (hc : c.Sound shown) (h : History) :
    (c.after h).connected = true ↔ c.connected = true ∧ ¬ c.RaisesIn h := by
  induction h generalizing c with
  | nil => simp [OutputCache.after, RaisesIn]
  | cons step h ih =>
    have hstep := hc.performs step.1 step.2
    simp only [RaisesIn, not_or, ← and_assoc, ← hstep.connected]
    exact ih hstep.sound

theorem Sound.not_raisesIn (hc : c.Sound shown) (hoff : c.connected = false) (h : History) :
    ¬ c.RaisesIn h := by
  induction h generalizing c with
  | nil => exact id
  | cons step h ih =>
    have hstep := hc.performs step.1 step.2
    rintro (hfails | hfails)
    · simp [hfails.1] at hoff
    · exact ih hstep.sound (by simpa [hoff] using hstep.connected) hfails

/-- The contents along a run are those along its history, unless they are lost. -/
theorem Sound.lost_after (hc : c.Sound shown) (hpast : ∀ step ∈ h, step.1 ≤ t) (key : String) :
    Contents.Lost ((c.after h).contents shown)
      ((c.contents shown).afterwards c.expiration h) t key := by
  induction h generalizing c with
  | nil => exact .inr rfl
  | cons step h ih =>
    obtain ⟨ht, hpast⟩ := List.forall_mem_cons.1 hpast
    have hstep := hc.performs step.1 step.2
    have htail := ih hstep.sound hpast
    rw [hstep.expiration] at htail
    exact htail.trans ((hstep.lost ht key).afterwards h)

/-- They are not lost before the remote store fails. -/
theorem Sound.contents_after (hc : c.Sound shown) (hpast : ∀ step ∈ h, step.1 ≤ t)
    (hraises : ¬ c.RaisesIn h) :
    (c.after h).contents shown t key =
      (c.contents shown).afterwards c.expiration h t key := by
  induction h generalizing c with
  | nil => rfl
  | cons step h ih =>
    obtain ⟨ht, hpast⟩ := List.forall_mem_cons.1 hpast
    obtain ⟨hfirst, hrest⟩ := not_or.1 hraises
    have hstep := hc.performs step.1 step.2
    have htail := ih hstep.sound hpast hrest
    rw [hstep.expiration] at htail
    exact htail.trans (Contents.afterwards_congr (hstep.contents_of_not_raises hfirst ht) h)

/-! ## Answers -/

/-- A cache answers nothing that it does not hold. -/
theorem Sound.held_of_answer {v : Value} (hc : c.Sound shown)
    (hv : (c.perform t (.get key)).1 = some v) : c.contents shown t key = some v := by
  have hstep := hc.performs t (.get key)
  obtain hlost | hkept := hstep.lost le_rfl key
  · rw [← hstep.answer key rfl, hv] at hlost
    cases hlost
  · rw [← hstep.answer key rfl, hv] at hkept
    exact hkept.symm

/-- It answers what it holds unless the remote store fails. -/
theorem Sound.answer_of_not_raises (hc : c.Sound shown) (hraises : ¬ c.Raises t (.get key)) :
    (c.perform t (.get key)).1 = c.contents shown t key := by
  have hstep := hc.performs t (.get key)
  rw [hstep.answer key rfl, hstep.contents_of_not_raises hraises le_rfl]
  rfl

/-- What a cache answers was stored last under the key, or was there at the start. -/
theorem Sound.latest_of_answer {v : Value} (hc : c.Sound shown)
    (horder : History.InOrder (h ++ [(t, .get key)]))
    (hv : ((c.after h).perform t (.get key)).1 = some v) :
    (∃ before t₀ html since, IsLatest h before t₀ key html since ∧ t < t₀ + c.expiration ∧
        v = .text html) ∨ (h.Spares key ∧ c.contents shown t key = some v) := by
  have hheld := (hc.after h).1.held_of_answer hv
  obtain hnone | heq := hc.lost_after horder.le key
  · rw [hheld] at hnone
    cases hnone
  · exact Contents.eq_of_afterwards (heq.symm.trans hheld)

/-- As long as the remote store answers, so does the cache. -/
theorem Sound.answer_after (hc : c.Sound shown) (hpast : ∀ step ∈ h, step.1 ≤ t)
    (hraises : ¬ c.RaisesIn (h ++ [(t, .get key)])) :
    ((c.after h).perform t (.get key)).1 =
      (c.contents shown).afterwards c.expiration h t key := by
  rw [raisesIn_append, not_or] at hraises
  obtain ⟨hrun, hget⟩ := hraises
  rw [(hc.after h).1.answer_of_not_raises (fun hfails => hget (.inl hfails)),
    hc.contents_after hpast hrun]

/-- What was stored last is answered until it expires, unless the remote store fails. -/
theorem Sound.answer_of_latest {before since : History} {t₀ : Moment} {html : String}
    (hc : c.Sound shown) (horder : History.InOrder (h ++ [(t, .get key)]))
    (hlatest : IsLatest h before t₀ key html since) (hlives : t < t₀ + c.expiration)
    (hraises : ¬ (c.after (before ++ [(t₀, .set key html)])).RaisesIn (since ++ [(t, .get key)])) :
    ((c.after h).perform t (.get key)).1 = some (.text html) := by
  obtain ⟨hsplit, hspared⟩ := hlatest
  have hpast := horder.le
  rw [hsplit, List.append_cons, after_append]
  rw [hsplit, List.forall_mem_append, List.forall_mem_cons] at hpast
  obtain ⟨-, hset, hsince⟩ := hpast
  -- just after the text has been stored
  have hbefore := hc.after before
  have hstored : (c.after (before ++ [(t₀, .set key html)])).contents shown t key =
      some (.text html) := by
    rw [after_append]
    refine ((hbefore.1.performs t₀ (.set key html)).contents t key hset).trans ?_
    rw [Operation.effect, Contents.put_self, hbefore.2, if_pos hlives]
  rw [(hc.after _).1.answer_after hsince hraises, Contents.afterwards_of_spares hspared, hstored]

/-- An operation that spares a key makes no difference for it while the remote store answers. -/
theorem Sound.answer_of_spares {before since : History} {t₀ : Moment} {op : Operation}
    (hc : c.Sound shown)
    (horder : History.InOrder (before ++ (t₀, op) :: since ++ [(t, .get key)]))
    (hspares : op.Spares key)
    (hwith : ¬ (c.after before).RaisesIn ((t₀, op) :: since ++ [(t, .get key)]))
    (hwithout : ¬ (c.after before).RaisesIn (since ++ [(t, .get key)])) :
    ((c.after (before ++ (t₀, op) :: since)).perform t (.get key)).1 =
      ((c.after (before ++ since)).perform t (.get key)).1 := by
  have hpast := horder.le
  rw [List.forall_mem_append] at hpast
  have hsound := (hc.after before).1
  rw [after_append, after_append, hsound.answer_after hpast.2 hwith,
    hsound.answer_after (List.forall_mem_cons.1 hpast.2).2 hwithout]
  exact Contents.afterwards_congr (Operation.effect_of_spares hspares ..) since

/-! ## Without the remote store -/

/-- The cache with another remote store. -/
def withRemote {τ : Type} (c : OutputCache σ) (store : RemoteStore τ) (remote : τ) :
    OutputCache τ :=
  ⟨c.enabled, c.expiration, store, remote, c.connected, c.entries⟩

section Detached

variable {τ : Type} (store : RemoteStore τ) (remote : τ)

theorem getLocal_withRemote (c : OutputCache σ) (t : Moment) (fullKey : String) :
    (c.withRemote store remote).getLocal t fullKey =
      ((c.getLocal t fullKey).1, (c.getLocal t fullKey).2.withRemote store remote) := by
  have hentries : (c.withRemote store remote).entries = c.entries := rfl
  cases hfind : c.entries.find? (·.key = fullKey) with
  | none => simp only [getLocal, hentries, hfind]
  | some e =>
    by_cases hexpired : e.expiresAt ≤ t
    · simp only [getLocal, hentries, hfind, if_pos hexpired]
      rfl
    · simp only [getLocal, hentries, hfind, if_neg hexpired]

/-- A remote store that has been given up takes no part in an operation. -/
theorem perform_withRemote (hoff : c.connected = false) (t : Moment) (op : Operation) :
    (c.withRemote store remote).perform t op =
      ((c.perform t op).1, (c.perform t op).2.withRemote store remote) := by
  have hoff' : (c.withRemote store remote).connected = false := hoff
  cases op with
  | get key => simp [perform, OutputCache.get, hoff, hoff', getLocal_withRemote]
  | set key html =>
    simp only [perform, OutputCache.set, hoff, hoff', Bool.false_eq_true, if_false]
    rfl
  | clear =>
    simp only [perform, OutputCache.clear, hoff, hoff', Bool.false_eq_true, if_false]
    simp only [withRemote, hoff]

/-- Nor in a run. -/
theorem Sound.after_withRemote (hc : c.Sound shown) (hoff : c.connected = false) (h : History) :
    (c.withRemote store remote).answers h = c.answers h ∧
      (c.withRemote store remote).after h = (c.after h).withRemote store remote ∧
      (c.after h).remote = c.remote := by
  induction h generalizing c with
  | nil => exact ⟨rfl, rfl, rfl⟩
  | cons step h ih =>
    have hstep := hc.performs step.1 step.2
    have hoff' : (c.perform step.1 step.2).2.connected = false := by
      simpa [hoff] using hstep.connected
    obtain ⟨hanswers, hafter, hremote⟩ := ih hstep.sound hoff'
    have hperform := perform_withRemote store remote hoff step.1 step.2
    refine ⟨?_, ?_, hremote.trans (hstep.remote hoff)⟩
    · rw [answers, answers, hperform, hanswers]
    · unfold OutputCache.after at hafter ⊢
      rw [List.foldl_cons, List.foldl_cons, hperform, hafter]

end Detached

/-! ## The cache -/

end OutputCache
end RecordTemplate.Cache
