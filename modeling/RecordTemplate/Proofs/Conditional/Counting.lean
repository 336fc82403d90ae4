/-
  RecordTemplate.Proofs.Conditional.Counting

  What counting depth over markers finds, told by the stack of open blocks.

  Counting that reaches the end of the markers leaves an opening marker open for good, so the marker
  makes no pair (`Block.closing?_eq_none`).  Counting that stops has passed markers that are matched
  among themselves, and it has kept the separators at the top (`Block.closing?_eq_some`).  So the
  first block that is found belongs to the first pair of the matching (`Block.foundIn_find?`).
-/

import RecordTemplate.Proofs.Conditional.Matching

namespace RecordTemplate.Template

/-! ## Separators at the top -/

/-- The separators that lie in no block that is opened among the markers, if so many blocks are
    open before them. -/
def topSeparators : Nat → List Token → List Token
  | _, [] => []
  | depth, t :: ts =>
    match t.role, depth with
    | .opens, depth => topSeparators (depth + 1) ts
    | .closes, depth => topSeparators (depth - 1) ts
    | .separates, 0 => t :: topSeparators 0 ts
    | .separates, depth + 1 => topSeparators (depth + 1) ts

section Step

variable {t : Token} (depth : Nat) (ts : List Token)

theorem topSeparators_opens (h : t.role = .opens) :
    topSeparators depth (t :: ts) = topSeparators (depth + 1) ts := by
  simp only [topSeparators, h]

theorem topSeparators_closes (h : t.role = .closes) :
    topSeparators (depth + 1) (t :: ts) = topSeparators depth ts := by
  simp only [topSeparators, h, Nat.add_sub_cancel]

theorem topSeparators_zero (h : t.role = .separates) :
    topSeparators 0 (t :: ts) = t :: topSeparators 0 ts := by
  simp only [topSeparators, h]

theorem topSeparators_succ (h : t.role = .separates) :
    topSeparators (depth + 1) (t :: ts) = topSeparators (depth + 1) ts := by
  simp only [topSeparators, h]

end Step

/-- Before the first separator at the top so many blocks are closed as were open. -/
theorem topSeparators_split {depth : Nat} {ts : List Token}
    (h : depthAfter depth (ts.map Token.role) = some 0) :
    topSeparators depth ts = [] ∨ ∃ body s rest, ts = body ++ s :: rest ∧ s.role = .separates ∧
      depthAfter depth (body.map Token.role) = some 0 ∧ Balanced rest ∧
      topSeparators depth ts = s :: topSeparators 0 rest := by
  induction ts generalizing depth with
  | nil => exact .inl rfl
  | cons t ts ih =>
    rw [List.map_cons] at h
    -- a marker that belongs to the first body
    have inside {depth' : Nat} (h : depthAfter depth' (ts.map Token.role) = some 0)
        (hdepth : ∀ rs, depthAfter depth (t.role :: rs) = depthAfter depth' rs)
        (htop : topSeparators depth (t :: ts) = topSeparators depth' ts) :
        topSeparators depth (t :: ts) = [] ∨ ∃ body s rest, t :: ts = body ++ s :: rest ∧
          s.role = .separates ∧ depthAfter depth (body.map Token.role) = some 0 ∧ Balanced rest ∧
          topSeparators depth (t :: ts) = s :: topSeparators 0 rest := by
      rw [htop]
      rcases ih h with hnone | ⟨body, s, rest, hsplit, hs, hbody, hrest, hlater⟩
      · exact .inl hnone
      · refine .inr ⟨t :: body, s, rest, congrArg _ hsplit, hs, ?_, hrest, hlater⟩
        rw [List.map_cons, hdepth, hbody]
    cases hrole : t.role with
    | opens =>
      rw [hrole] at h inside
      exact inside h (fun _ => rfl) (topSeparators_opens _ _ hrole)
    | closes =>
      rw [hrole] at h inside
      cases depth with
      | zero => cases h
      | succ depth => exact inside h (fun _ => rfl) (topSeparators_closes _ _ hrole)
    | separates =>
      rw [hrole] at h inside
      cases depth with
      | zero => exact .inr ⟨[], t, ts, rfl, hrole, rfl, h, topSeparators_zero _ hrole⟩
      | succ depth => exact inside h (fun _ => rfl) (topSeparators_succ _ _ hrole)

/-- Between neighbouring delimiters of a block the markers are matched among themselves, and their
    pairs are pairs of the markers inside the block. -/
theorem Balanced.between {inside : List Token} (h : Balanced inside) {o c : Token}
    {p : Token × Token} (hp : p ∈ (o :: topSeparators 0 inside).zip (topSeparators 0 inside ++ [c])) :
    ∃ us body vs, o :: (inside ++ [c]) = us ++ p.1 :: (body ++ p.2 :: vs) ∧ Balanced body ∧
      body.Sublist inside ∧ ∀ q ∈ pairsFrom [] body, q ∈ pairsFrom [] inside := by
  induction htops : topSeparators 0 inside generalizing o inside with
  | nil =>
    rw [htops] at hp
    rw [List.mem_singleton.1 hp]
    exact ⟨[], inside, [], rfl, h, .refl inside, fun _ hq => hq⟩
  | cons s tops ih =>
    rcases topSeparators_split h with hnone | ⟨body, s', rest, rfl, hs, hbody, hrest, hlater⟩
    · rw [hnone] at htops
      cases htops
    · have hpairs : pairsFrom [] (body ++ s' :: rest) = pairsFrom [] body ++ pairsFrom [] rest := by
        rw [pairsFrom_append, Balanced.openAfter_eq hbody, pairsFrom_separates _ _ hs]
      rw [hlater] at hp htops
      cases htops
      rw [hpairs]
      rcases List.mem_cons.1 hp with rfl | hp
      · refine ⟨[], body, rest ++ [c], ?_, hbody, List.sublist_append_left body _, fun q hq => ?_⟩
        · simp
        · exact List.mem_append_left _ hq
      · obtain ⟨us, body', vs, hsplit, hbody', hinside, hinner⟩ := ih hrest hp rfl
        refine ⟨o :: (body ++ us), body', vs, ?_, hbody', ?_, fun q hq => ?_⟩
        · rw [List.append_assoc, List.cons_append, hsplit]
          simp
        · exact (hinside.cons _).trans (List.sublist_append_right body _)
        · exact List.mem_append_right _ (hinner q hq)

/-! ## Depth counted over markers -/

/-- A branch as its own marker and the next one of its block delimit it. -/
def Branch.between (text : List Char) (d e : Token) : Branch :=
  ⟨d.argument?, piece text d.stop e.position, d.position⟩

namespace Block

/-- A block that is not closed is left open by all the markers that follow. -/
theorem closing?_eq_none {depth start : Nat} {ms : List (Found Marker)}
    (h : closing? depth start ms = none) :
    ∃ n, depthAfter depth ((placed start ms).map Token.role) = some n := by
  induction ms generalizing depth start with
  | nil => exact ⟨depth, rfl⟩
  | cons m ms ih =>
    obtain ⟨lead, item, own⟩ := m
    rw [placed_cons, List.map_cons]
    cases item with
    | ifOpen condition => exact ih (Option.map_eq_none_iff.1 h)
    | close =>
      cases depth with
      | zero => cases h
      | succ depth => exact ih (Option.map_eq_none_iff.1 h)
    | elseIf condition => cases depth <;> exact ih (Option.map_eq_none_iff.1 h)
    | otherwise => cases depth <;> exact ih (Option.map_eq_none_iff.1 h)

/-- What is left of an open block lies between markers of the text: those inside the block, the
    marker that closes it and the later ones. -/
structure Closing.LiesIn (c : Closing) (text : List Char) (depth start : Nat)
    (markers inside : List Token) (closer : Token) : Prop where
  split : markers = inside ++ closer :: placed c.stop c.later
  closes : closer.role = .closes
  stop : c.stop = closer.stop
  balanced : depthAfter depth (inside.map Token.role) = some 0
  bodies : ∃ e es, topSeparators depth inside ++ [closer] = e :: es ∧ start ≤ e.position ∧
    c.body = piece text start e.position ∧
    c.branches = List.zipWith (Branch.between text) (topSeparators depth inside) es

namespace Closing.LiesIn

variable {c : Closing} {text lead own rest : List Char} {depth depth' start : Nat}
  {ts inside : List Token} {closer t : Token}

/-- A marker that belongs to the body that is being read. -/
theorem after (h : c.LiesIn text depth' (start + lead.length + own.length) ts inside closer)
    (htext : text.drop start = lead ++ (own ++ rest))
    (hdepth : depthAfter depth ((t :: inside).map Token.role) =
      depthAfter depth' (inside.map Token.role))
    (htop : topSeparators depth (t :: inside) = topSeparators depth' inside) :
    (c.after (lead ++ own)).LiesIn text depth start (t :: ts) (t :: inside) closer where
  split := congrArg _ h.split
  closes := h.closes
  stop := h.stop
  balanced := hdepth.trans h.balanced
  bodies := by
    obtain ⟨e, es, hes, hplace, hbody, hbranches⟩ := h.bodies
    have hown : piece text (start + lead.length) (start + lead.length + own.length) = own :=
      piece_of_drop (drop_of_drop htext)
    rw [htop]
    refine ⟨e, es, hes, by omega, ?_, hbranches⟩
    show lead ++ own ++ c.body = _
    rw [hbody, ← piece_append (Nat.le_add_right start lead.length) (by omega),
      ← piece_append (Nat.le_add_right (start + lead.length) own.length) hplace,
      piece_of_drop htext, hown, List.append_assoc]

/-- A separator at the top ends the body that is being read. -/
theorem separator {m : Marker}
    (h : c.LiesIn text 0 (start + lead.length + own.length) ts inside closer)
    (htext : text.drop start = lead ++ (own ++ rest)) (hm : m.role = .separates) :
    Closing.LiesIn
      { c with body := lead, branches := ⟨m.condition?, c.body, start + lead.length⟩ :: c.branches }
      text 0 start (⟨.marker m, own, start + lead.length⟩ :: ts)
      (⟨.marker m, own, start + lead.length⟩ :: inside) closer where
  split := congrArg _ h.split
  closes := h.closes
  stop := h.stop
  balanced := by
    have hbalanced := h.balanced
    rw [List.map_cons]
    show depthAfter 0 (m.role :: _) = _
    rw [hm]
    exact hbalanced
  bodies := by
    obtain ⟨e, es, hes, hplace, hbody, hbranches⟩ := h.bodies
    have hrole : Token.role ⟨.marker m, own, start + lead.length⟩ = .separates := hm
    rw [topSeparators_zero _ hrole, List.cons_append, hes]
    refine ⟨_, _, rfl, Nat.le_add_right _ _, (piece_of_drop htext).symm, ?_⟩
    rw [List.zipWith_cons_cons, ← hbranches, Branch.between, Token.stop, ← hbody]
    rfl

end Closing.LiesIn

theorem closing?_eq_some {text tail : List Char} {depth start : Nat} {ms : List (Found Marker)}
    {c : Closing} (h : closing? depth start ms = some c)
    (htext : text.drop start = (Scan.mk ms tail).text) :
    text.drop c.stop = (Scan.mk c.later tail).text ∧
      ∃ inside closer, c.LiesIn text depth start (placed start ms) inside closer := by
  induction ms generalizing depth start c with
  | nil => cases h
  | cons m ms ih =>
    obtain ⟨lead, item, own⟩ := m
    have hcons : text.drop start = lead ++ (own ++ (Scan.mk ms tail).text) := by
      rw [htext]
      simp [Scan.text]
    have hrest := drop_of_drop (drop_of_drop hcons)
    -- a marker that belongs to the body that is being read
    have inside {depth' : Nat}
        (hdepth : ∀ ts, depthAfter depth (item.role :: ts) = depthAfter depth' ts)
        (htop : ∀ t ts, t.role = item.role →
          topSeparators depth (t :: ts) = topSeparators depth' ts)
        (h : (closing? depth' (start + lead.length + own.length) ms).map (·.after (lead ++ own)) =
          some c) :
        text.drop c.stop = (Scan.mk c.later tail).text ∧
          ∃ inside closer, c.LiesIn text depth start (placed start (⟨lead, item, own⟩ :: ms))
            inside closer := by
      obtain ⟨c, hc, rfl⟩ := Option.map_eq_some_iff.1 h
      obtain ⟨hlater, inside, closer, hlies⟩ := ih hc hrest
      rw [placed_cons]
      exact ⟨hlater, _, closer, hlies.after hcons (hdepth _) (htop _ _ rfl)⟩
    -- a separator at the top
    have separator (hitem : item.role = .separates) (hdepth : depth = 0)
        (h : ((closing? 0 (start + lead.length + own.length) ms).map fun c =>
          { c with body := lead,
                   branches := ⟨item.condition?, c.body, start + lead.length⟩ :: c.branches }) =
            some c) :
        text.drop c.stop = (Scan.mk c.later tail).text ∧
          ∃ inside closer, c.LiesIn text depth start (placed start (⟨lead, item, own⟩ :: ms))
            inside closer := by
      obtain ⟨c, hc, rfl⟩ := Option.map_eq_some_iff.1 h
      obtain ⟨hlater, inside, closer, hlies⟩ := ih hc hrest
      rw [placed_cons, hdepth]
      exact ⟨hlater, _, closer, hlies.separator hcons hitem⟩
    cases item with
    | ifOpen condition => exact inside (fun _ => rfl) (fun t ts => topSeparators_opens _ _) h
    | close =>
      cases depth with
      | zero =>
        cases h
        -- nothing is inside: the body ends at the marker that closes the block
        refine ⟨hrest, [], _, placed_cons _ _ _, rfl, rfl, rfl, _, _, rfl, ?_, ?_, rfl⟩
        · exact Nat.le_add_right _ _
        · exact (piece_of_drop hcons).symm
      | succ depth => exact inside (fun _ => rfl) (fun t ts => topSeparators_closes _ _) h
    | elseIf condition =>
      cases depth with
      | zero => exact separator rfl rfl h
      | succ depth => exact inside (fun _ => rfl) (fun t ts => topSeparators_succ _ _) h
    | otherwise =>
      cases depth with
      | zero => exact separator rfl rfl h
      | succ depth => exact inside (fun _ => rfl) (fun t ts => topSeparators_succ _ _) h

/-- A block lies among markers of its text, from the marker that opens it to the one that closes
    it. -/
structure LiesIn (b : Block) (text : List Char) (markers earlier inside later : List Token)
    (o c : Token) : Prop where
  split : markers = earlier ++ o :: (inside ++ c :: later)
  opens : o.role = .opens
  closes : c.role = .closes
  balanced : Balanced inside
  pairs : pairsFrom [] markers = pairsFrom [] inside ++ (o, c) :: pairsFrom [] later
  before : b.before = text.take o.position
  stop : b.stop = c.stop
  after : b.after = text.drop c.stop
  branches : b.branches = List.zipWith (Branch.between text) (o :: topSeparators 0 inside)
    (topSeparators 0 inside ++ [c])

/-- What is found among markers: the block of the first pair that they make, or nothing if they
    make none. -/
def FoundIn (text : List Char) (markers : List Token) : Option Block → Prop
  | none => pairsFrom [] markers = []
  | some b => ∃ earlier inside later o c, b.LiesIn text markers earlier inside later o c

/-- A marker that makes no pair is passed over. -/
theorem FoundIn.skip {text : List Char} {ts : List Token} {t : Token} {found : Option Block}
    (h : FoundIn text ts found) (hpairs : pairsFrom [] (t :: ts) = pairsFrom [] ts) :
    FoundIn text (t :: ts) found := by
  cases found with
  | none => exact hpairs.trans h
  | some b =>
    obtain ⟨earlier, inside, later, o, c, h⟩ := h
    exact ⟨t :: earlier, inside, later, o, c, congrArg _ h.split, h.opens, h.closes, h.balanced,
      hpairs.trans h.pairs, h.before, h.stop, h.after, h.branches⟩

theorem foundIn_first? {text tail before : List Char} {ms : List (Found Marker)}
    (htext : text = before ++ (Scan.mk ms tail).text) :
    FoundIn text (placed before.length ms) (first? tail before ms) := by
  induction ms generalizing before with
  | nil => rfl
  | cons m ms ih =>
    obtain ⟨lead, item, own⟩ := m
    have hcons : text = before ++ lead ++ own ++ (Scan.mk ms tail).text := by
      rw [htext]
      simp [Scan.text]
    have hstop :
        (before ++ lead).length + own.length = before.length + lead.length + own.length := by
      rw [List.length_append]
    have hlater : FoundIn text (placed (before.length + lead.length + own.length) ms)
        (first? tail (before ++ lead ++ own) ms) := by
      have := ih hcons
      rwa [List.length_append, hstop] at this
    rw [placed_cons, first?]
    cases item with
    | ifOpen condition =>
      simp only [hstop]
      cases hclosing : closing? 0 (before.length + lead.length + own.length) ms with
      | none =>
        -- the marker is left open by all that follow
        obtain ⟨n, hn⟩ := closing?_eq_none hclosing
        exact hlater.skip (pairsFrom_unclosed rfl hn)
      | some c =>
        have hrest : text.drop (before.length + lead.length + own.length) =
            (Scan.mk ms tail).text := by
          rw [hcons, ← hstop, ← List.length_append, List.drop_left]
        obtain ⟨hafter, inside, closer, h⟩ := closing?_eq_some hclosing hrest
        obtain ⟨e, es, hes, -, hbody, hbranches⟩ := h.bodies
        refine ⟨[], inside, placed c.stop c.later, _, closer, congrArg _ h.split, rfl, h.closes,
          h.balanced, ?_, ?_, h.stop, ?_, ?_⟩
        · rw [h.split]
          exact Balanced.pairsFrom_block h.balanced rfl h.closes [] _
        · show before ++ lead = text.take (before.length + lead.length)
          rw [hcons, List.append_assoc, ← List.length_append, List.take_left]
        · rw [← h.stop]
          exact hafter.symm
        · rw [hes, List.zipWith_cons_cons, ← hbranches, Branch.between, Token.stop, ← hbody,
            List.length_append]
          rfl
    | close => exact hlater.skip (pairsFrom_closes_nil _ rfl)
    | elseIf condition => exact hlater.skip (pairsFrom_separates _ _ rfl)
    | otherwise => exact hlater.skip (pairsFrom_separates _ _ rfl)

theorem foundIn_find? (text : List Char) : FoundIn text (markerTokens text) (find? text) := by
  rw [markerTokens_eq]
  exact foundIn_first? (Recogniser.text_scan markerRule text).symm

end Block
end RecordTemplate.Template
