/-
  RecordTemplate.Proofs.Conditional.FirstBlock

  The first block of a text, found by counting depth anew from each opening marker, is the block of
  the leftmost pair that one matching with a stack makes (`Block.find?_matches_stack`).

  Places tell which markers a pair encloses.  The separators of a block are those that its pair
  encloses and no pair within it (`separatorsOf_eq`), so a pair that begins between two neighbouring
  delimiters of the block ends there too (`LiesIn.matchedBody`).
-/

import RecordTemplate.Proofs.Conditional.Counting

namespace RecordTemplate.Template

/-! ## Markers in their order -/

/-- A marker stands between the markers of a pair. -/
def Encloses (p : Token × Token) (t : Token) : Prop :=
  p.1.position < t.position ∧ t.position < p.2.position

instance (p : Token × Token) (t : Token) : Decidable (Encloses p t) := by
  unfold Encloses
  infer_instance

/-- A separator that no pair encloses. -/
def FreeSeparator (pairs : List (Token × Token)) (t : Token) : Prop :=
  t.role = .separates ∧ ∀ q ∈ pairs, ¬Encloses q t

instance (pairs : List (Token × Token)) (t : Token) : Decidable (FreeSeparator pairs t) := by
  unfold FreeSeparator
  infer_instance

theorem freeSeparator_cons {p : Token × Token} {pairs : List (Token × Token)} {t : Token} :
    FreeSeparator (p :: pairs) t ↔ ¬Encloses p t ∧ FreeSeparator pairs t := by
  simp only [FreeSeparator, List.forall_mem_cons]
  exact and_left_comm

/-- Markers in the order of their places. -/
def InOrder (ts : List Token) : Prop := ts.Pairwise fun t u => t.position < u.position

/-- If no block is left open, the separators at the top are those that no pair encloses. -/
theorem topSeparators_eq_filter (stack : List Token) {ts : List Token} (hsorted : InOrder ts)
    (hstack : ∀ o ∈ stack, ∀ t ∈ ts, o.position < t.position)
    (hdepth : depthAfter stack.length (ts.map Token.role) = some 0) :
    topSeparators stack.length ts = ts.filter fun t => FreeSeparator (pairsFrom stack ts) t := by
  induction ts generalizing stack with
  | nil => rfl
  | cons t ts ih =>
    obtain ⟨hfirst, hlater⟩ := List.pairwise_cons.1 hsorted
    have hstack' : ∀ o ∈ stack, ∀ u ∈ ts, o.position < u.position :=
      fun o ho u hu => hstack o ho u (List.mem_cons_of_mem t hu)
    rw [List.map_cons] at hdepth
    cases hrole : t.role with
    | opens =>
      rw [hrole] at hdepth
      have hopen : ∀ o ∈ t :: stack, ∀ u ∈ ts, o.position < u.position := by
        intro o ho u hu
        rcases List.mem_cons.1 ho with rfl | ho
        · exact hfirst u hu
        · exact hstack' o ho u hu
      rw [topSeparators_opens _ _ hrole, pairsFrom_opens _ _ hrole,
        List.filter_cons_of_neg (by simp [FreeSeparator, hrole])]
      exact ih (t :: stack) hlater hopen hdepth
    | closes =>
      rw [hrole] at hdepth
      cases stack with
      | nil => cases hdepth
      | cons o stack =>
        rw [List.length_cons, topSeparators_closes _ _ hrole, pairsFrom_closes _ _ hrole,
          List.filter_cons_of_neg (by simp [FreeSeparator, hrole]),
          ih stack hlater (fun o' ho' => hstack' o' (List.mem_cons_of_mem o ho')) hdepth]
        -- the pair that is closed here encloses no later marker
        refine List.filter_congr fun u hu => ?_
        have hpair : ¬Encloses (o, t) u := fun h => absurd h.2 (Nat.lt_asymm (hfirst u hu))
        simp [freeSeparator_cons, hpair]
    | separates =>
      rw [hrole] at hdepth
      cases stack with
      | nil =>
        -- a later pair does not enclose this separator
        have hfree : FreeSeparator (pairsFrom [] ts) t := by
          refine ⟨hrole, ?_⟩
          rintro ⟨o, c⟩ hq h
          have ho := (mem_of_mem_pairsFrom hq).1.resolve_left List.not_mem_nil
          exact absurd h.1 (Nat.lt_asymm (hfirst o ho))
        rw [List.length_nil, topSeparators_zero _ hrole, pairsFrom_separates _ _ hrole,
          List.filter_cons_of_pos (by simpa using hfree)]
        exact congrArg _ (ih [] hlater hstack' hdepth)
      | cons o stack =>
        -- the block that is open here is closed behind this separator
        obtain ⟨c, hc⟩ := matched_of_depthAfter_zero (o :: stack) hdepth (.inl List.mem_cons_self)
        have hencloses : Encloses (o, c) t :=
          ⟨hstack o List.mem_cons_self t List.mem_cons_self,
            hfirst c (mem_of_mem_pairsFrom hc).2⟩
        rw [List.length_cons, topSeparators_succ _ _ hrole, pairsFrom_separates _ _ hrole,
          List.filter_cons_of_neg (by simpa using fun h => h.2 _ hc hencloses)]
        exact ih (o :: stack) hlater hstack' hdepth

/-! ## Markers between markers -/

namespace InOrder

variable {us vs ws : List Token} {d e : Token}

/-- The markers between two markers. -/
theorem filter_encloses (h : InOrder (us ++ d :: (vs ++ e :: ws))) :
    (us ++ d :: (vs ++ e :: ws)).filter (fun t => Encloses (d, e) t) = vs := by
  obtain ⟨-, hright, hleft⟩ := List.pairwise_append.1 h
  obtain ⟨hfirst, hright⟩ := List.pairwise_cons.1 hright
  obtain ⟨-, hbehind, hinside⟩ := List.pairwise_append.1 hright
  obtain ⟨hlast, -⟩ := List.pairwise_cons.1 hbehind
  have hus : us.filter (fun t => Encloses (d, e) t) = [] := by
    refine List.filter_eq_nil_iff.2 fun t ht hencloses => ?_
    have hbefore : t.position < d.position := hleft t ht d List.mem_cons_self
    exact Nat.lt_asymm hbefore (of_decide_eq_true hencloses).1
  have hvs : vs.filter (fun t => Encloses (d, e) t) = vs := by
    refine List.filter_eq_self.2 fun t ht => decide_eq_true ⟨?_, ?_⟩
    · exact hfirst t (List.mem_append_left _ ht)
    · exact hinside t ht e List.mem_cons_self
  have hws : ws.filter (fun t => Encloses (d, e) t) = [] := by
    refine List.filter_eq_nil_iff.2 fun t ht hencloses => ?_
    have hafter : e.position < t.position := hlast t ht
    exact Nat.lt_asymm hafter (of_decide_eq_true hencloses).2
  rw [List.filter_append, List.filter_cons_of_neg (by simp [Encloses]), List.filter_append,
    List.filter_cons_of_neg (by simp [Encloses]), hus, hvs, hws, List.nil_append, List.append_nil]

end InOrder

theorem inOrder_markerTokens (text : List Char) : InOrder (markerTokens text) := by
  have h := MarkersOf.of_markerTokens text
  refine h.sorted.imp_of_mem fun {t u} ht hu hsorted => ?_
  have hbounds := h.bounds t ht
  omega

/-- A text cut out between two of its markers has the markers that stand between them. -/
theorem markersFrom_piece {text : List Char} {us vs ws : List Token} {d e : Token}
    (h : markerTokens text = us ++ d :: (vs ++ e :: ws)) :
    markersFrom d.stop (piece text d.stop e.position) = vs := by
  have hmarkers := MarkersOf.of_markerTokens text
  rw [h] at hmarkers
  exact ((hmarkers.after List.drop_zero).upTo rfl).markersFrom_eq

/-! ## The block of a pair -/

/-- The pairs of a text within a pair. -/
def innerPairs (text : List Char) (p : Token × Token) : List (Token × Token) :=
  (matchedPairs text).filter fun q => Encloses p q.1 ∧ Encloses p q.2

/-- The separators that a pair encloses and no pair within it. -/
def separatorsOf (text : List Char) (p : Token × Token) : List Token :=
  (markerTokens text).filter fun t => Encloses p t ∧ FreeSeparator (innerPairs text p) t

/-- Between two markers of a text lies a body: the markers of the body are those that stand there,
    and each that opens or closes a block is matched with another one of them. -/
structure MatchedBody (text : List Char) (d e : Token) : Prop where
  markers : markersFrom d.stop (piece text d.stop e.position) =
    (markerTokens text).filter fun t => Encloses (d, e) t
  opener : ∀ o ∈ markerTokens text, Encloses (d, e) o → o.role = .opens →
    ∃ c, (o, c) ∈ matchedPairs text ∧ Encloses (d, e) c
  closer : ∀ c ∈ markerTokens text, Encloses (d, e) c → c.role = .closes →
    ∃ o, (o, c) ∈ matchedPairs text ∧ Encloses (d, e) o

/-- A block is that of the leftmost pair of a text.  Its own marker and the separators of the pair
    begin the branches; each branch goes as far as the next of them or the closing marker. -/
structure IsLeftmost (b : Block) (text : List Char) (o c : Token) : Prop where
  matched : (o, c) ∈ matchedPairs text
  leftmost : ∀ q ∈ matchedPairs text, o.position ≤ q.1.position
  position : b.position = o.position
  stop : b.stop = c.stop
  before : b.before = text.take o.position
  after : b.after = text.drop c.stop
  branches : b.branches = List.zipWith (Branch.between text) (o :: separatorsOf text (o, c))
    (separatorsOf text (o, c) ++ [c])
  conditions : ∀ d ∈ o :: separatorsOf text (o, c),
    d.argument? = none ↔ d.kind = .marker .otherwise
  tiles : piece text b.position b.stop =
    ((o :: separatorsOf text (o, c)).zip b.branches).flatMap (fun (d, branch) =>
      d.value ++ branch.body) ++ c.value
  bodies : ∀ p ∈ (o :: separatorsOf text (o, c)).zip (separatorsOf text (o, c) ++ [c]),
    MatchedBody text p.1 p.2

/-! ## Neighbouring delimiters -/

section Delimiters

variable {x z : Token} {ds : List Token}

/-- Delimiters and the bodies between them make up the text from the first of them to the end of the
    last. -/
theorem piece_delimited {text : List Char}
    (hsorted : (x :: (ds ++ [z])).Pairwise fun t u => t.stop ≤ u.position)
    (hvalue : ∀ t ∈ x :: (ds ++ [z]), t.value = piece text t.position t.stop) :
    piece text x.position z.stop =
      ((x :: ds).zip (List.zipWith (Branch.between text) (x :: ds) (ds ++ [z]))).flatMap
        (fun (d, branch) => d.value ++ branch.body) ++ z.value := by
  induction ds generalizing x with
  | nil =>
    have hplace : x.stop ≤ z.position := (List.pairwise_cons.1 hsorted).1 z List.mem_cons_self
    have hx := hvalue x List.mem_cons_self
    have hz := hvalue z (List.mem_cons_of_mem x List.mem_cons_self)
    have hlast : z.position ≤ z.stop := Nat.le_add_right _ _
    have hown : x.position ≤ x.stop := Nat.le_add_right _ _
    rw [← piece_append hown (Nat.le_trans hplace hlast), ← piece_append hplace hlast, ← hx, ← hz]
    simp [Branch.between]
  | cons y ds ih =>
    obtain ⟨hfirst, hlater⟩ := List.pairwise_cons.1 hsorted
    have hrest := ih hlater fun t ht => hvalue t (List.mem_cons_of_mem x ht)
    have hx := hvalue x List.mem_cons_self
    have hown : x.position ≤ x.stop := Nat.le_add_right _ _
    have hplace : x.stop ≤ y.position := hfirst y List.mem_cons_self
    have hlast : y.position ≤ z.stop := by
      have hbehind : y.stop ≤ z.position := (List.pairwise_cons.1 hlater).1 z (by simp)
      rw [Token.stop] at hbehind ⊢
      omega
    rw [← piece_append hown (Nat.le_trans hplace hlast), ← piece_append hplace hlast, ← hx, hrest]
    simp [Branch.between]

end Delimiters

/-- Of the markers that begin a branch only `[else]` has no condition. -/
theorem Marker.condition?_eq_none {m : Marker} (h : m.role ≠ .closes) :
    m.condition? = none ↔ m = .otherwise := by
  cases m with
  | ifOpen c => exact iff_of_false (Option.some_ne_none c) Marker.noConfusion
  | elseIf c => exact iff_of_false (Option.some_ne_none c) Marker.noConfusion
  | otherwise => exact iff_of_true rfl rfl
  | close => exact absurd rfl h

/-! ## The first block -/

namespace Block.LiesIn

variable {b : Block} {text : List Char} {earlier inside later : List Token} {o c t : Token}

theorem filter_eq (h : b.LiesIn text (markerTokens text) earlier inside later o c) :
    (markerTokens text).filter (fun t => Encloses (o, c) t) = inside := by
  have horder := inOrder_markerTokens text
  rw [h.split] at horder ⊢
  exact horder.filter_encloses

theorem mem_inside (h : b.LiesIn text (markerTokens text) earlier inside later o c) :
    t ∈ inside ↔ t ∈ markerTokens text ∧ Encloses (o, c) t := by
  rw [← h.filter_eq, List.mem_filter, decide_eq_true_eq]

theorem inOrder_inside (h : b.LiesIn text (markerTokens text) earlier inside later o c) :
    InOrder inside := by
  rw [← h.filter_eq]
  exact (inOrder_markerTokens text).sublist List.filter_sublist

theorem lt_later (h : b.LiesIn text (markerTokens text) earlier inside later o c)
    (ht : t ∈ later) : o.position < t.position ∧ c.position < t.position := by
  have horder := inOrder_markerTokens text
  rw [h.split] at horder
  obtain ⟨hfirst, hrest⟩ := List.pairwise_cons.1 (List.pairwise_append.1 horder).2.1
  obtain ⟨hlast, -⟩ := List.pairwise_cons.1 (List.pairwise_append.1 hrest).2.1
  exact ⟨hfirst t (List.mem_append_right _ (List.mem_cons_of_mem c ht)), hlast t ht⟩

/-- The pairs within the pair of the block are those that the markers inside it make. -/
theorem innerPairs_eq (h : b.LiesIn text (markerTokens text) earlier inside later o c) :
    innerPairs text (o, c) = pairsFrom [] inside := by
  have hinside : (pairsFrom [] inside).filter
      (fun q => Encloses (o, c) q.1 ∧ Encloses (o, c) q.2) = pairsFrom [] inside := by
    refine List.filter_eq_self.2 fun q hq => decide_eq_true ?_
    obtain ⟨hopener, hcloser⟩ := mem_of_mem_pairsFrom hq
    exact ⟨(h.mem_inside.1 (hopener.resolve_left List.not_mem_nil)).2, (h.mem_inside.1 hcloser).2⟩
  have hlater : (pairsFrom [] later).filter
      (fun q => Encloses (o, c) q.1 ∧ Encloses (o, c) q.2) = [] := by
    refine List.filter_eq_nil_iff.2 fun q hq hencloses => ?_
    have hbehind := h.lt_later (mem_of_mem_pairsFrom hq).2
    exact Nat.lt_asymm hbehind.2 (of_decide_eq_true hencloses).2.2
  rw [innerPairs, matchedPairs, h.pairs, List.filter_append, hinside,
    List.filter_cons_of_neg (by simp [Encloses]), hlater, List.append_nil]

theorem separatorsOf_eq_filter (h : b.LiesIn text (markerTokens text) earlier inside later o c) :
    separatorsOf text (o, c) = inside.filter fun t => FreeSeparator (pairsFrom [] inside) t := by
  rw [← h.innerPairs_eq, separatorsOf, ← h.filter_eq, List.filter_filter]
  simp only [Bool.decide_and, Bool.and_comm]

theorem separatorsOf_eq (h : b.LiesIn text (markerTokens text) earlier inside later o c) :
    separatorsOf text (o, c) = topSeparators 0 inside := by
  rw [h.separatorsOf_eq_filter]
  exact (topSeparators_eq_filter [] h.inOrder_inside (by simp) h.balanced).symm

/-- The delimiters of the block are markers of the text, in their order. -/
theorem delimiters_sublist (h : b.LiesIn text (markerTokens text) earlier inside later o c) :
    (o :: (separatorsOf text (o, c) ++ [c])).Sublist (markerTokens text) := by
  have hinside : (separatorsOf text (o, c)).Sublist inside := by
    rw [h.separatorsOf_eq_filter]
    exact List.filter_sublist
  have hcloser : [c].Sublist (c :: later) := List.singleton_sublist.2 List.mem_cons_self
  rw [h.split]
  exact ((hinside.append hcloser).cons_cons o).trans (List.sublist_append_right earlier _)

/-- Between neighbouring delimiters of the block the markers are matched among themselves. -/
theorem between (h : b.LiesIn text (markerTokens text) earlier inside later o c)
    {p : Token × Token}
    (hp : p ∈ (o :: separatorsOf text (o, c)).zip (separatorsOf text (o, c) ++ [c])) :
    ∃ us body vs, markerTokens text = us ++ p.1 :: (body ++ p.2 :: vs) ∧ Balanced body ∧
      body.Sublist inside ∧ ∀ q ∈ pairsFrom [] body, q ∈ matchedPairs text := by
  rw [h.separatorsOf_eq] at hp
  obtain ⟨us, body, vs, hsplit, hbody, hinside, hinner⟩ := h.balanced.between hp
  refine ⟨earlier ++ us, body, vs ++ later, ?_, hbody, hinside, fun q hq => ?_⟩
  · have hwhole : o :: (inside ++ c :: later) = o :: (inside ++ [c]) ++ later := by simp
    rw [h.split, hwhole, hsplit]
    simp
  · rw [matchedPairs, h.pairs]
    exact List.mem_append_left _ (hinner q hq)

theorem matchedBody (h : b.LiesIn text (markerTokens text) earlier inside later o c)
    {p : Token × Token}
    (hp : p ∈ (o :: separatorsOf text (o, c)).zip (separatorsOf text (o, c) ++ [c])) :
    MatchedBody text p.1 p.2 := by
  obtain ⟨us, body, vs, hsplit, hbody, -, hinner⟩ := h.between hp
  have hfilter : (markerTokens text).filter (fun t => Encloses p t) = body := by
    have horder := inOrder_markerTokens text
    rw [hsplit] at horder ⊢
    exact horder.filter_encloses
  have hmem (t : Token) : t ∈ body ↔ t ∈ markerTokens text ∧ Encloses p t := by
    rw [← hfilter, List.mem_filter, decide_eq_true_eq]
  refine ⟨?_, fun t ht hencloses hopens => ?_, fun t ht hencloses hcloses => ?_⟩
  · rw [hfilter]
    exact markersFrom_piece hsplit
  · obtain ⟨t', hq⟩ := hbody.opener_matched ((hmem t).2 ⟨ht, hencloses⟩) hopens
    exact ⟨t', hinner _ hq, ((hmem t').1 (mem_of_mem_pairsFrom hq).2).2⟩
  · obtain ⟨t', hq⟩ := hbody.closer_matched ((hmem t).2 ⟨ht, hencloses⟩) hcloses
    have hopener := (mem_of_mem_pairsFrom hq).1.resolve_left List.not_mem_nil
    exact ⟨t', hinner _ hq, ((hmem t').1 hopener).2⟩

/-- The block is that of the leftmost pair. -/
theorem isLeftmost (h : b.LiesIn text (markerTokens text) earlier inside later o c) :
    IsLeftmost b text o c := by
  have hmarkers := MarkersOf.of_markerTokens text
  have hsublist := h.delimiters_sublist
  have hmem : ∀ t ∈ o :: (separatorsOf text (o, c) ++ [c]), t ∈ markerTokens text := hsublist.subset
  have hbounds := hmarkers.bounds o (hmem o List.mem_cons_self)
  have hbranches : b.branches = List.zipWith (Branch.between text) (o :: separatorsOf text (o, c))
      (separatorsOf text (o, c) ++ [c]) := by
    rw [h.separatorsOf_eq, h.branches]
  have hposition : b.position = o.position := by
    rw [Block.position, h.before, List.length_take]
    omega
  refine ⟨?_, fun q hq => ?_, hposition, h.stop, h.before, h.after, hbranches, fun d hd => ?_, ?_,
    fun p hp => h.matchedBody hp⟩
  · rw [matchedPairs, h.pairs]
    simp
  · -- other pairs are made of markers inside the block or behind it
    rw [matchedPairs, h.pairs] at hq
    rcases List.mem_append.1 hq with hq | hq
    · have hopener := (mem_of_mem_pairsFrom hq).1.resolve_left List.not_mem_nil
      exact Nat.le_of_lt (h.mem_inside.1 hopener).2.1
    · rcases List.mem_cons.1 hq with rfl | hq
      · exact Nat.le_refl _
      · have hopener := (mem_of_mem_pairsFrom hq).1.resolve_left List.not_mem_nil
        exact Nat.le_of_lt (h.lt_later hopener).1
  · have hrole : d.role ≠ .closes := by
      rcases List.mem_cons.1 hd with rfl | hd
      · rw [h.opens]
        exact Role.noConfusion
      · rw [(of_decide_eq_true (List.mem_filter.1 hd).2).2.1]
        exact Role.noConfusion
    have hdelimiter : d ∈ o :: (separatorsOf text (o, c) ++ [c]) :=
      List.mem_append_left [c] hd
    obtain ⟨m, hkind, -⟩ := hmarkers.spelled d (hmem d hdelimiter)
    rw [Token.role, hkind] at hrole
    rw [Token.argument?, hkind, TokenKind.marker.injEq]
    exact Marker.condition?_eq_none hrole
  · rw [hposition, h.stop, hbranches]
    exact piece_delimited (hmarkers.sorted.sublist hsublist)
      fun t ht => hmarkers.value_eq List.drop_zero t (hmem t ht)

end Block.LiesIn

/-- The first block of a text is the one that matching with a stack gives. -/
theorem Block.find?_matches_stack (text : List Char) :
    (find? text = none ↔ matchedPairs text = []) ∧
      ∀ b ∈ find? text, ∃ o c, IsLeftmost b text o c := by
  have hfound := foundIn_find? text
  cases hfind : find? text with
  | none =>
    rw [hfind] at hfound
    exact ⟨iff_of_true rfl hfound, by simp⟩
  | some b =>
    rw [hfind] at hfound
    obtain ⟨earlier, inside, later, o, c, h⟩ := hfound
    have hleftmost := h.isLeftmost
    refine ⟨iff_of_false (by simp) (List.ne_nil_of_mem hleftmost.matched), fun b' hb => ?_⟩
    cases hb
    exact ⟨o, c, hleftmost⟩

/-- A closing marker with nothing open, an opening one that is never closed, and a block with a
    block inside. -/
def looseMarkers : List Char :=
  "[/if][if:a]u[if:b]v[elseif:c]w[if:d]x[else]y[/if][else]z[/if]".toList

/-- The second opening marker is the first that is closed, and the inner `[else]` does not count. -/
theorem Block.find?_matches_stack_loose :
    ∃ b, find? looseMarkers = some b ∧ (b.position, b.stop) = (12, 61) ∧
      b.branches = [⟨some "b".toList, "v".toList, 12⟩,
        ⟨some "c".toList, "w[if:d]x[else]y[/if]".toList, 19⟩, ⟨none, "z".toList, 49⟩] ∧
      ∃ o c, IsLeftmost b looseMarkers o c := by
  have hb : find? looseMarkers = some ⟨"[/if][if:a]u".toList,
      [⟨some "b".toList, "v".toList, 12⟩,
        ⟨some "c".toList, "w[if:d]x[else]y[/if]".toList, 19⟩, ⟨none, "z".toList, 49⟩],
      61, []⟩ := by decide +kernel
  exact ⟨_, hb, rfl, rfl, (find?_matches_stack looseMarkers).2 _ hb⟩

end RecordTemplate.Template
