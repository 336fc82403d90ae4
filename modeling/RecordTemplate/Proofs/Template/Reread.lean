/-
  RecordTemplate.Proofs.Template.Reread

  What a scan finds is read again from its own text.  Reading a tag never looks past the percent
  sign that closes it (`withKeyword?_append`), so a tag cut out of a template is the same tag,
  whatever the other keywords are (`Tag.parse?_of_tagForm?`), and a fallback is the same fallback
  (`FallbackBlock.parse?_of_run`).
-/

import RecordTemplate.Template.Token

namespace RecordTemplate.Template

open RecordTemplate.Text

/-! ## Spans -/

/-- A span ends at the same place if something of what stopped it is left. -/
theorem takeWhile_append_of_dropWhile {p : Char → Bool} {s t u : List Char}
    (h : s.dropWhile p = t ++ u) (ht : t ≠ []) (rest : List Char) :
    (s.takeWhile p ++ (t ++ rest)).takeWhile p = s.takeWhile p ∧
      (s.takeWhile p ++ (t ++ rest)).dropWhile p = t ++ rest := by
  have hall : ∀ c ∈ s.takeWhile p, p c = true := List.all_eq_true.1 List.all_takeWhile
  obtain ⟨c, t, rfl⟩ := List.exists_cons_of_ne_nil ht
  -- the span stops at the first character that is left
  have hstop : p c = false := by
    have := List.head?_dropWhile_not p s
    rw [h] at this
    simpa using this
  constructor
  · rw [List.takeWhile_append_of_pos hall, List.cons_append,
      List.takeWhile_cons_of_neg (by simp [hstop]), List.append_nil]
  · rw [List.dropWhile_append_of_pos hall, List.cons_append,
      List.dropWhile_cons_of_neg (by simp [hstop])]

/-! ## Tags -/

theorem toPercent?_append {q : Option Char} {s body u : List Char}
    (h : toPercent? q s = some (body, u)) (rest : List Char) :
    toPercent? q (body ++ '%' :: rest) = some (body, rest) := by
  -- the quote that is open changes on the way, and decides what closes the tag
  induction s generalizing q body with
  | nil => cases q <;> simp [toPercent?] at h
  | cons c s ih =>
    cases q with
    | some q =>
      obtain ⟨⟨b, r⟩, hb, he⟩ := Option.map_eq_some_iff.1 h
      cases he
      simp [toPercent?, ih hb]
    | none =>
      simp only [toPercent?] at h
      split at h
      · cases h
        rfl
      · next hc =>
        obtain ⟨⟨b, r⟩, hb, he⟩ := Option.map_eq_some_iff.1 h
        cases he
        simp [toPercent?, hc, ih hb]

theorem chain?_append {s : List Char} {r : Reading (List Char)} (h : chain? s = some r)
    (rest : List Char) : chain? (r.text ++ rest) = some ⟨r.item, r.text, rest⟩ := by
  unfold chain? at h
  dsimp only at h
  split at h
  · cases h
  · next c body u ht =>
    cases h
    have hd : s.dropWhile isSpace = (c :: body ++ ['%']) ++ u := by
      simpa using eq_of_toPercent? ht
    obtain ⟨htake, hdrop⟩ := takeWhile_append_of_dropWhile hd (by simp) rest
    have hagain := toPercent?_append ht rest
    simp only [List.append_assoc, List.cons_append, List.nil_append] at htake hdrop hagain ⊢
    simp only [chain?, htake, hdrop, hagain]
    simp
  · next u ht =>
    obtain ⟨c, hc, rfl⟩ := Option.map_eq_some_iff.1 h
    have hd : s.dropWhile isSpace = ['%'] ++ u := by simpa using eq_of_toPercent? ht
    obtain ⟨htake, hdrop⟩ := takeWhile_append_of_dropWhile hd (by simp) rest
    have hagain := toPercent?_append ht rest
    simp only [List.append_assoc, List.cons_append, List.nil_append] at htake hdrop hagain ⊢
    simp only [chain?, htake, hdrop, hagain, hc, Option.map_some]

theorem afterPath?_append {s : List Char} {r : Reading (List Char)} (h : afterPath? s = some r)
    (rest : List Char) : afterPath? (r.text ++ rest) = some ⟨r.item, r.text, rest⟩ := by
  unfold afterPath? at h
  split at h
  · cases h
  · next c t =>
    split at h
    · next hc =>
      cases h
      simp [afterPath?, hc]
    · next hc =>
      dsimp only at h
      split at h
      · cases h
      · next d u hd =>
        split at h
        · next hbar =>
          obtain ⟨r', hr, rfl⟩ := Option.map_eq_some_iff.1 h
          have hd' : (c :: t).dropWhile isSpace = (d :: r'.text) ++ r'.rest := by
            rw [hd, eq_of_chain? hr, List.cons_append]
          obtain ⟨htake, hdrop⟩ := takeWhile_append_of_dropWhile hd' (by simp) rest
          -- what is read begins with the same character
          obtain ⟨w, hw⟩ : ∃ w, (c :: t).takeWhile isSpace ++ d :: r'.text = c :: w := by
            have hs := List.takeWhile_append_dropWhile (p := isSpace) (l := c :: t)
            rw [hd'] at hs
            rcases hb : (c :: t).takeWhile isSpace with _ | ⟨b, bs⟩ <;> rw [hb] at hs
            · exact ⟨r'.text, by simpa using (List.cons.inj hs).1⟩
            · exact ⟨bs ++ d :: r'.text, by simpa using (List.cons.inj hs).1⟩
          rw [← List.append_assoc, hw, List.cons_append] at htake hdrop
          simp only [hw, List.cons_append, afterPath?, hc, if_false, htake, hdrop]
          simp only [hbar, if_true, chain?_append hr, Option.map_some, ← hw]
        · cases h

theorem ends_of_chain? {s : List Char} {r : Reading (List Char)} (h : chain? s = some r) :
    ∃ v, r.text = v ++ ['%'] := by
  unfold chain? at h
  dsimp only at h
  split at h
  · cases h
  · cases h
    exact ⟨_, rfl⟩
  · obtain ⟨b, -, rfl⟩ := Option.map_eq_some_iff.1 h
    exact ⟨_, rfl⟩

theorem ends_of_afterPath? {s : List Char} {r : Reading (List Char)} (h : afterPath? s = some r) :
    ∃ v, r.text = v ++ ['%'] := by
  unfold afterPath? at h
  split at h
  · cases h
  · next c t =>
    split at h
    · next hc =>
      cases h
      exact ⟨[], by rw [hc, List.nil_append]⟩
    · dsimp only at h
      split at h
      · cases h
      · next d u hd =>
        split at h
        · obtain ⟨r', hr, rfl⟩ := Option.map_eq_some_iff.1 h
          obtain ⟨v, hv⟩ := ends_of_chain? hr
          exact ⟨(c :: t).takeWhile isSpace ++ d :: v, by simp [hv]⟩
        · cases h

/-- A tag ends with a percent sign, and it is read again whatever follows this sign. -/
theorem withKeyword?_eq_some {k s : List Char} {r : Reading TagForm}
    (h : withKeyword? k s = some r) :
    ∃ v, r.text = '%' :: (v ++ ['%']) ∧
      ∀ rest, withKeyword? k (v ++ '%' :: rest) = some ⟨r.item, r.text, rest⟩ := by
  unfold withKeyword? at h
  split at h
  · cases h
  · next t ht =>
    dsimp only at h
    split at h
    · cases h
    · next hp =>
      obtain ⟨r', hr, rfl⟩ := Option.map_eq_some_iff.1 h
      obtain ⟨v, hv⟩ := ends_of_afterPath? hr
      refine ⟨k ++ [':'] ++ t.takeWhile isPathChar ++ v, by simp [hv], fun rest => ?_⟩
      obtain ⟨htake, hdrop⟩ := takeWhile_append_of_dropWhile (eq_of_afterPath? hr)
        (by simp [hv]) rest
      have hafter : after? (k ++ [':'])
          (k ++ [':'] ++ t.takeWhile isPathChar ++ v ++ '%' :: rest) =
            some (t.takeWhile isPathChar ++ (r'.text ++ rest)) :=
        after?_eq_some_iff.2 (by simp [hv])
      simp only [withKeyword?, hafter, htake, hp, if_false, hdrop, afterPath?_append hr,
        Option.map_some]

/-- What begins a text begins it also when more follows. -/
theorem withKeyword?_extended {k u : List Char} {r : Reading TagForm}
    (h : withKeyword? k u = some r) (rest : List Char) :
    withKeyword? k (u ++ rest) = some ⟨r.item, r.text, r.rest ++ rest⟩ := by
  obtain ⟨v, hv, hagain⟩ := withKeyword?_eq_some h
  obtain ⟨-, hs⟩ := splits_withKeyword? h
  have hu : u = v ++ '%' :: r.rest := by simpa [hv] using hs
  rw [hu, List.append_assoc, List.cons_append, hagain]

/-! ## First readings -/

theorem findSome?_filterMap {α β γ : Type} (f : α → Option β) (g : β → Option γ) (l : List α) :
    (l.filterMap f).findSome? g = l.findSome? fun a => (f a).bind g := by
  induction l with
  | nil => rfl
  | cons a l ih => cases h : f a <;> simp [h, List.findSome?_cons, ih]

/-- What succeeds first succeeds first again, if all that failed before fails again. -/
theorem findSome?_again {α β γ : Type} {f : α → Option β} {g : α → Option γ} {l : List α} {b : β}
    {c : γ} (h : l.findSome? f = some b) (hsome : ∀ a, f a = some b → g a = some c)
    (hnone : ∀ a, f a = none → g a = none) : l.findSome? g = some c := by
  induction l with
  | nil => cases h
  | cons a l ih =>
    rw [List.findSome?_cons] at h ⊢
    cases ha : f a with
    | none => rw [hnone a ha]; exact ih (by simpa [ha] using h)
    | some b' =>
      rw [ha] at h
      cases h
      rw [hsome a ha]

/-- What a scan finds is read at some place of the text. -/
theorem Recogniser.run_of_mem_found {α : Type} (rule : Recogniser α) (s : List Char) :
    ∀ f ∈ (rule.scan s).found, ∃ t rest, t <:+ s ∧ rule.run t = some ⟨f.item, f.text, rest⟩ := by
  fun_induction rule.scan s with
  | case1 => exact fun f hf => absurd hf List.not_mem_nil
  | case2 c cs r hr later ih =>
    intro f hf
    rcases List.mem_cons.1 hf with rfl | hf
    · exact ⟨_, _, List.suffix_rfl, hr⟩
    · obtain ⟨t, rest, ht, hrun⟩ := ih f hf
      exact ⟨t, rest, ht.trans ⟨r.text, (rule.splits hr).2.symm⟩, hrun⟩
  | case3 c cs hr ih =>
    have hlater : ∀ f ∈ (rule.scan cs).found,
        ∃ t rest, t <:+ c :: cs ∧ rule.run t = some ⟨f.item, f.text, rest⟩ := by
      intro f hf
      obtain ⟨t, rest, ht, hrun⟩ := ih f hf
      exact ⟨t, rest, ht.trans (List.suffix_cons c cs), hrun⟩
    rcases hs : rule.scan cs with ⟨_ | ⟨g, gs⟩, tail⟩ <;> rw [hs] at hlater
    · exact fun f hf => absurd hf List.not_mem_nil
    · intro f hf
      rcases List.mem_cons.1 hf with rfl | hf
      · exact hlater g (List.mem_cons_self ..)
      · exact hlater f (List.mem_cons_of_mem _ hf)

/-! ## Tags read again -/

theorem trim_eq_self {v : List Char} : trim ('%' :: (v ++ ['%'])) = '%' :: (v ++ ['%']) := by
  have hp : isSpace '%' = false := by decide
  simp [trim, trimBy, trimRightBy, hp]

theorem tagForms_percent (ks : Keywords) (t : List Char) :
    tagForms ks ('%' :: t) = ks.words.filterMap fun k => withKeyword? k t := rfl

/-- The readings of a text begin with a percent sign. -/
theorem eq_percent_of_mem_tagForms {ks : Keywords} {s : List Char} {r : Reading TagForm}
    (h : r ∈ tagForms ks s) : ∃ t, s = '%' :: t := by
  unfold tagForms at h
  split at h
  · cases h
  · split at h
    · next hc => exact ⟨_, by rw [hc]⟩
    · cases h

/-- A tag is the one tag that its own text consists of. -/
theorem Tag.parse?_of_tagForm? {ks : Keywords} {s : List Char} {r : Reading TagForm}
    (h : tagForm? ks s = some r) (position : Int) :
    Tag.parse? ks r.text position = some (Tag.ofForm r.item r.text position) := by
  obtain ⟨t, rfl⟩ := eq_percent_of_mem_tagForms (List.mem_of_head? h)
  rw [tagForm?, tagForms_percent, List.head?_filterMap] at h
  obtain ⟨k, -, hk⟩ := List.exists_of_findSome?_eq_some h
  obtain ⟨v, hv, -⟩ := withKeyword?_eq_some hk
  have ht : t = (v ++ ['%']) ++ r.rest := by
    simpa [hv] using (splits_withKeyword? hk).2
  -- the parser takes the first keyword whose tag is the whole text, and no earlier keyword reads
  -- a tag here, as it would have read one in the longer text too
  have hfirst : ((tagForms ks r.text).find? fun r => r.rest.isEmpty) =
      some ⟨r.item, r.text, []⟩ := by
    rw [hv, tagForms_percent, List.find?_eq_findSome?_guard, findSome?_filterMap]
    refine findSome?_again h (fun a ha => ?_) fun a ha => ?_
    · obtain ⟨w, hw, hagain⟩ := withKeyword?_eq_some ha
      have hvw : v = w := by simpa using hv.symm.trans hw
      subst hvw
      simp [hagain, Option.guard, ← hv]
    · have hnone : withKeyword? a (v ++ ['%']) = none := by
        rcases hr : withKeyword? a (v ++ ['%']) with _ | r'
        · rfl
        · have := withKeyword?_extended hr r.rest
          rw [← ht, ha] at this
          cases this
      rw [hnone]
      rfl
  have htrim : trim r.text = r.text := by rw [hv, trim_eq_self]
  simp only [Tag.parse?, htrim, hfirst, Option.map_some]

/-! ## Fallbacks read again -/

theorem cut?_append_isSome (piece a b : List Char) : (cut? piece (a ++ (piece ++ b))).isSome := by
  induction a with
  | nil =>
    have h : after? piece (piece ++ b) = some b := after?_eq_some_iff.2 rfl
    unfold cut?
    simp [h]
  | cons c a ih =>
    unfold cut?
    split
    · rfl
    · simpa using ih

namespace FallbackForm

theorem beforeEnd?_append (mark s : List Char) : beforeEnd? mark (s ++ mark) = some s := by
  have h : after? mark.reverse (s ++ mark).reverse = some s.reverse :=
    after?_eq_some_iff.2 (by simp)
  rw [beforeEnd?, h, Option.map_some, List.reverse_reverse]

theorem eq_of_beforeEnd? {mark s body : List Char} (h : beforeEnd? mark s = some body) :
    s = body ++ mark := by
  obtain ⟨u, hu, rfl⟩ := Option.map_eq_some_iff.1 h
  simpa using congrArg List.reverse (after?_eq_some_iff.1 hu)

theorem ofTag?_eq_some {tag : Reading TagForm} {r : Reading FallbackForm}
    (h : ofTag? tag = some r) :
    ∃ body, r.item = ⟨tag.text, body⟩ ∧ r.text = tag.text ++ (openMark ++ (body ++ closeMark)) ∧
      tag.rest = openMark ++ (body ++ closeMark) ++ r.rest := by
  unfold ofTag? at h
  split at h
  · cases h
  · next t ht =>
    obtain ⟨⟨b, rest⟩, hb, rfl⟩ := Option.map_eq_some_iff.1 h
    refine ⟨b, rfl, by simp, ?_⟩
    rw [after?_eq_some_iff.1 ht, eq_of_cut? hb]
    simp only [List.append_assoc]

theorem wholeOfTag?_append (item : TagForm) (text body : List Char) :
    wholeOfTag? ⟨item, text, openMark ++ (body ++ closeMark)⟩ = some ⟨text, body⟩ := by
  have h : after? openMark (openMark ++ (body ++ closeMark)) = some (body ++ closeMark) :=
    after?_eq_some_iff.2 rfl
  simp only [wholeOfTag?, h, beforeEnd?_append, Option.map_some]

/-- What is a fallback as a whole begins with one. -/
theorem ofTag?_isSome {item : TagForm} {text u : List Char} {f : FallbackForm}
    (h : wholeOfTag? ⟨item, text, u⟩ = some f) (rest : List Char) :
    (ofTag? ⟨item, text, u ++ rest⟩).isSome := by
  unfold wholeOfTag? at h
  split at h
  · cases h
  · next t ht =>
    obtain ⟨body, hbody, -⟩ := Option.map_eq_some_iff.1 h
    have hu : u = openMark ++ t := after?_eq_some_iff.1 ht
    have hafter : after? openMark (u ++ rest) = some (body ++ (closeMark ++ rest)) :=
      after?_eq_some_iff.2 (by simp only [hu, eq_of_beforeEnd? hbody, List.append_assoc])
    simp only [ofTag?, hafter, Option.isSome_map, cut?_append_isSome]

/-- A fallback is the one fallback that its own text consists of. -/
theorem parse?_of_run {ks : Keywords} {s : List Char} {r : Reading FallbackForm}
    (h : run ks s = some r) : parse? ks r.text = some r.item := by
  obtain ⟨tag, htag, hof⟩ := List.exists_of_findSome?_eq_some h
  obtain ⟨t, rfl⟩ := eq_percent_of_mem_tagForms htag
  obtain ⟨k, -, hk⟩ := List.mem_filterMap.1 htag
  obtain ⟨body, hitem, htext, hrest⟩ := ofTag?_eq_some hof
  obtain ⟨v, hv, -⟩ := withKeyword?_eq_some hk
  have ht : t = (v ++ '%' :: (openMark ++ (body ++ closeMark))) ++ r.rest := by
    have := (splits_withKeyword? hk).2
    rw [hv, hrest] at this
    simpa using this
  have hu : r.text = '%' :: (v ++ '%' :: (openMark ++ (body ++ closeMark))) := by
    rw [htext, hv]
    simp
  rw [run, tagForms_percent, findSome?_filterMap] at h
  rw [parse?, hu, tagForms_percent, findSome?_filterMap]
  refine findSome?_again h (fun a ha => ?_) fun a ha => ?_
  · -- the keyword that the fallback was found with
    obtain ⟨tag', htag', hof'⟩ := Option.bind_eq_some_iff.1 ha
    obtain ⟨body', hitem', htext', -⟩ := ofTag?_eq_some hof'
    obtain ⟨w, hw, hagain⟩ := withKeyword?_eq_some htag'
    have hsame : v ++ '%' :: (openMark ++ (body ++ closeMark)) =
        w ++ '%' :: (openMark ++ (body' ++ closeMark)) := by
      rw [hu, hw] at htext'
      simpa using htext'
    rw [hsame, hagain, Option.bind_some, wholeOfTag?_append, hitem']
  · -- a keyword that finds a fallback in its text finds one in the longer text
    rcases hw : withKeyword? a (v ++ '%' :: (openMark ++ (body ++ closeMark))) with _ | r'
    · rfl
    · rcases hf : wholeOfTag? r' with _ | f
      · exact hf
      · have hlong := ofTag?_isSome hf r.rest
        rw [ht, withKeyword?_extended hw, Option.bind_some] at ha
        rw [ha] at hlong
        cases hlong

end FallbackForm

theorem FallbackBlock.parse?_of_run {ks : Keywords} {s : List Char} {r : Reading FallbackForm}
    (h : FallbackForm.run ks s = some r) (position : Int) :
    FallbackBlock.parse? ks r.text position =
      some ⟨position, position + r.text.length, r.item.tagText, r.item.body⟩ := by
  rw [FallbackBlock.parse?, FallbackForm.parse?_of_run h, Option.map_some]

/-! ## Constructs read again -/

/-- What a scan finds as a fallback is one. -/
theorem FallbackForm.run_of_mem_found {ks : Keywords} {text : List Char} {f : Found Construct}
    {form : FallbackForm} (h : f ∈ ((constructRule ks).scan text).found)
    (hf : f.item = .fallback form) : ∃ t rest, run ks t = some ⟨form, f.text, rest⟩ := by
  obtain ⟨t, rest, -, hr⟩ := (constructRule ks).run_of_mem_found text f h
  obtain ⟨lead, item, own⟩ := f
  cases hf
  change Construct.run ks t = some ⟨.fallback form, own, rest⟩ at hr
  unfold Construct.run at hr
  split at hr
  · cases hr
  · split at hr
    · next r hrun =>
      cases hr
      exact ⟨t, r.rest, hrun⟩
    · obtain ⟨r, -, hr⟩ := Option.map_eq_some_iff.1 hr
      cases hr

/-- A fallback that is found consists of its tag, its body and the two marks. -/
theorem FallbackForm.text_of_mem_found {ks : Keywords} {text : List Char} {f : Found Construct}
    {form : FallbackForm} (h : f ∈ ((constructRule ks).scan text).found)
    (hf : f.item = .fallback form) :
    f.text = form.tagText ++ (openMark ++ (form.body ++ closeMark)) := by
  obtain ⟨t, rest, hrun⟩ := run_of_mem_found h hf
  obtain ⟨tag, -, hof⟩ := List.exists_of_findSome?_eq_some hrun
  obtain ⟨body, hitem, htext, -⟩ := ofTag?_eq_some hof
  simp only at hitem htext
  rw [htext, hitem]

theorem Tag.parse?_of_mem_found {ks : Keywords} {text : List Char} {f : Found TagForm}
    (h : f ∈ ((tagRule ks).scan text).found) (position : Int) :
    Tag.parse? ks f.text position = some (Tag.ofForm f.item f.text position) := by
  obtain ⟨t, rest, -, hr⟩ := (tagRule ks).run_of_mem_found text f h
  exact Tag.parse?_of_tagForm? (r := ⟨f.item, f.text, rest⟩) hr position

/-- What the parser answers for the text of a construct. -/
def Construct.IsReread (ks : Keywords) (text : List Char) (position : Int) : Construct → Prop
  | .tag form => Tag.parse? ks text position = some (Tag.ofForm form text position)
  | .fallback form => FallbackBlock.parse? ks text position =
      some ⟨position, position + text.length, form.tagText, form.body⟩
  | .marker _ => ∀ f ∈ ((tagRule ks).scan text).found, ∀ position,
      Tag.parse? ks f.text position = some (Tag.ofForm f.item f.text position)

/-- Every construct that a scan finds is read again as what it was found as. -/
theorem Construct.isReread_of_mem_found {ks : Keywords} {text : List Char} {f : Found Construct}
    (h : f ∈ ((constructRule ks).scan text).found) (position : Int) :
    f.item.IsReread ks f.text position := by
  obtain ⟨t, rest, -, hr⟩ := (constructRule ks).run_of_mem_found text f h
  obtain ⟨lead, item, own⟩ := f
  change Construct.run ks t = some ⟨item, own, rest⟩ at hr
  unfold Construct.run at hr
  split at hr
  · cases hr
    exact fun f hf position => Tag.parse?_of_mem_found hf position
  · split at hr
    · next hf =>
      cases hr
      exact FallbackBlock.parse?_of_run hf position
    · obtain ⟨r, hf, hr⟩ := Option.map_eq_some_iff.1 hr
      cases hr
      exact Tag.parse?_of_tagForm? hf position

end RecordTemplate.Template
