import Payables.Proofs.Matching.Proposals

/-!
# Turns on a board

Playing a board is a sequence of turns, one strategy at one invoice line each, in order of priority
and then of line numbers, with elimination at the end.

* `turn_cases`, `eliminate_cases` — all that a turn and an elimination can do.
* `turn_coherent`, `runTurns_coherent`, `play_coherent` — every step keeps the board coherent.
* `Extended` — what a step leaves alone: entries, receipts and the claims that are there; the new
  claims come from its turns (`runTurns_extended`, `play_extended`), and none is more confident than
  its strategy allows (`play_confidence_le`).
* `turnsOf_pairwise` — turns are taken in lexicographic order.
-/

namespace Payables.Board

variable {b b' : Board} {s : Strategy} {l : InvoiceLine} {ls : List InvoiceLine}
  {ts : List (Strategy × InvoiceLine)}

/-! ## One turn -/

/-- A line that is assigned has no turn. -/
theorem turn_of_assigned (s : Strategy) (h : b.isAssigned l.lineNum = true) : turn s b l = b := by
  simp [turn, h]

/-- All that a turn at an open line can do: claim the candidate that reaches the floor, or nothing
where there is none. -/
theorem turn_of_open (s : Strategy) (h : b.isAssigned l.lineNum = false) :
    (∃ c, b.propose s l = some c ∧ s.floor ≤ c.rawConfidence ∧
        turn s b l = b.claim l.lineNum ⟨c.poLine, s, c.rawConfidence⟩) ∨
      (∀ c, b.propose s l = some c → c.rawConfidence < s.floor) ∧ turn s b l = b := by
  cases hc : b.propose s l with
  | none => exact Or.inr ⟨nofun, by simp [turn, h, hc]⟩
  | some c =>
    by_cases hfloor : c.rawConfidence < s.floor
    · refine Or.inr ⟨?_, by simp [turn, h, hc, hfloor]⟩
      intro c' hc'
      cases hc'
      exact hfloor
    · exact Or.inl ⟨c, rfl, UInt8.not_lt.1 hfloor, by simp [turn, h, hc, hfloor]⟩

/-- All that a turn can do: nothing, where the line is assigned or no acceptable line is free, or
claim an acceptable free line. -/
theorem turn_cases (hb : b.Coherent) (s : Strategy) (l : InvoiceLine) :
    (turn s b l = b ∧ (b.isAssigned l.lineNum = true ∨
        ∀ e ∈ b.free, ¬s.Accepts b.receipts l e.line)) ∨
      ∃ e ∈ b.free, b.isAssigned l.lineNum = false ∧ s.Accepts b.receipts l e.line ∧
        turn s b l = b.claim l.lineNum
          ⟨e.line.lineNum, s, s.pairConfidence b.receipts l e.line⟩ := by
  cases hassigned : b.isAssigned l.lineNum with
  | true => exact Or.inl ⟨turn_of_assigned s hassigned, Or.inl rfl⟩
  | false =>
    rcases turn_of_open s hassigned with ⟨c, hc, hfloor, hturn⟩ | ⟨hbelow, hturn⟩
    · obtain ⟨e, he, rfl, haccepts⟩ := propose_eq_some hb hc
      exact Or.inr ⟨e, he, rfl, haccepts hfloor, hturn⟩
    · refine Or.inl ⟨hturn, Or.inr ?_⟩
      intro e he haccepts
      obtain ⟨c, hc, hfloor⟩ := exists_propose_of_accepts hb he haccepts
      exact absurd (hbelow c hc) (UInt8.not_lt.2 hfloor)

theorem turn_coherent (hb : b.Coherent) (s : Strategy) (l : InvoiceLine) :
    (turn s b l).Coherent := by
  rcases turn_cases hb s l with ⟨h, -⟩ | ⟨e, he, hopen, -, h⟩
  · rwa [h]
  · obtain ⟨hentry, hfree⟩ := mem_free_iff.1 he
    rw [h]
    exact hb.claim hopen hfree (hasLine_iff.2 ⟨e, hentry, rfl⟩)

/-! ## Elimination -/

/-- The lines that have been given nothing. -/
def openLines (ls : List InvoiceLine) (b : Board) : List InvoiceLine :=
  ls.filter fun l => !b.isAssigned l.lineNum

/-- All that an elimination can do: nothing, unless exactly one line is open and exactly one is
free; then it pairs the two. -/
theorem eliminate_cases (ls : List InvoiceLine) (b : Board) :
    (eliminate ls b = b ∧ ¬∃ l e, openLines ls b = [l] ∧ b.free = [e]) ∨
      ∃ l e, openLines ls b = [l] ∧ b.free = [e] ∧
        eliminate ls b = b.claim l.lineNum
          ⟨e.line.lineNum, .elimination, Strategy.elimination.weight⟩ := by
  unfold eliminate openLines
  split
  · rename_i l e hl he
    exact Or.inr ⟨l, e, hl, he, rfl⟩
  · rename_i hne
    refine Or.inl ⟨rfl, ?_⟩
    rintro ⟨l, e, hl, he⟩
    exact hne l e hl he

theorem eliminate_coherent (hb : b.Coherent) (ls : List InvoiceLine) :
    (eliminate ls b).Coherent := by
  rcases eliminate_cases ls b with ⟨h, -⟩ | ⟨l, e, hl, he, h⟩
  · rwa [h]
  · have hopen : l ∈ openLines ls b := by simp [hl]
    have hfree : e ∈ b.free := by simp [he]
    obtain ⟨hentry, hunclaimed⟩ := mem_free_iff.1 hfree
    rw [h]
    exact hb.claim (by simpa using (List.mem_filter.1 hopen).2) hunclaimed
      (hasLine_iff.2 ⟨e, hentry, rfl⟩)

/-! ## Sequences of turns -/

/-- Turns taken one after another. -/
def runTurns (ts : List (Strategy × InvoiceLine)) (b : Board) : Board :=
  ts.foldl (fun b t => turn t.1 b t.2) b

/-- The lines in ascending order. -/
def inOrder (ls : List InvoiceLine) : List InvoiceLine :=
  sortBy (fun a b => intLe a.lineNum b.lineNum) ls

/-- The turns at a list of lines: every strategy goes through all lines. -/
def turnsOf (ls : List InvoiceLine) : List (Strategy × InvoiceLine) :=
  Strategy.proposing.flatMap fun s => ls.map fun l => (s, l)

theorem runTurns_append (ts us : List (Strategy × InvoiceLine)) (b : Board) :
    runTurns (ts ++ us) b = runTurns us (runTurns ts b) :=
  List.foldl_append

theorem runTurns_cons (t : Strategy × InvoiceLine) (b : Board) :
    runTurns (t :: ts) b = runTurns ts (turn t.1 b t.2) := rfl

/-- A round is the turns of one strategy. -/
theorem round_eq_runTurns (ls : List InvoiceLine) (b : Board) (s : Strategy) :
    round ls b s = runTurns (ls.map fun l => (s, l)) b := by
  unfold round runTurns
  rw [List.foldl_map]

theorem rounds_eq_runTurns (ss : List Strategy) (ls : List InvoiceLine) (b : Board) :
    ss.foldl (round ls) b = runTurns (ss.flatMap fun s => ls.map fun l => (s, l)) b := by
  induction ss generalizing b with
  | nil => rfl
  | cons s ss ih =>
    rw [List.foldl_cons, List.flatMap_cons, runTurns_append, ih, round_eq_runTurns]

/-- All rounds over the lines in ascending order. -/
def rounds (ls : List InvoiceLine) (b : Board) : Board :=
  Strategy.proposing.foldl (round (inOrder ls)) b

theorem rounds_eq (ls : List InvoiceLine) (b : Board) :
    rounds ls b = runTurns (turnsOf (inOrder ls)) b :=
  rounds_eq_runTurns _ _ _

theorem play_eq_eliminate (ls : List InvoiceLine) (b : Board) :
    play ls b = eliminate (inOrder ls) (rounds ls b) := rfl

/-- Playing a board is taking all turns in order, then eliminating. -/
theorem play_eq (ls : List InvoiceLine) (b : Board) :
    play ls b = eliminate (inOrder ls) (runTurns (turnsOf (inOrder ls)) b) := by
  rw [play_eq_eliminate, rounds_eq]

theorem mem_turnsOf : (s, l) ∈ turnsOf ls ↔ s ∈ Strategy.proposing ∧ l ∈ ls := by
  simp only [turnsOf, List.mem_flatMap, List.mem_map, Prod.mk.injEq]
  constructor
  · rintro ⟨s', hs, l', hl, rfl, rfl⟩
    exact ⟨hs, hl⟩
  · rintro ⟨hs, hl⟩
    exact ⟨s, hs, l, hl, rfl, rfl⟩

@[simp] theorem mem_inOrder : l ∈ inOrder ls ↔ l ∈ ls := mem_sortBy

/-- A turn comes before another: by priority, then by line number. -/
def Precedes (t u : Strategy × InvoiceLine) : Prop :=
  t.1.position < u.1.position ∨ t.1 = u.1 ∧ t.2.lineNum < u.2.lineNum

/-- Turns are taken in lexicographic order. -/
theorem turnsOf_pairwise (h : (ls.map InvoiceLine.lineNum).Nodup) :
    (turnsOf (inOrder ls)).Pairwise Precedes := by
  have hlines := sortBy_pairwise_lt InvoiceLine.lineNum h
  unfold turnsOf
  rw [List.pairwise_flatMap]
  constructor
  · intro s _
    refine List.pairwise_map.2 (hlines.imp ?_)
    intro l m hlt
    exact Or.inr ⟨rfl, hlt⟩
  · have hpositions : Strategy.proposing.Pairwise fun s t => s.position < t.position := by decide
    refine hpositions.imp ?_
    intro s t hlt x hx y hy
    obtain ⟨l, -, rfl⟩ := List.mem_map.1 hx
    obtain ⟨m, -, rfl⟩ := List.mem_map.1 hy
    exact Or.inl hlt

theorem runTurns_coherent (hb : b.Coherent) (ts : List (Strategy × InvoiceLine)) :
    (runTurns ts b).Coherent := by
  induction ts generalizing b with
  | nil => exact hb
  | cons t ts ih => exact ih (turn_coherent hb t.1 t.2)

/-- Playing keeps a board coherent. -/
theorem play_coherent (hb : b.Coherent) (ls : List InvoiceLine) : (play ls b).Coherent := by
  rw [play_eq]
  exact eliminate_coherent (runTurns_coherent hb _) _

/-! ## What stays -/

/-- A board that came from another by adding claims of a kind. -/
structure Extended (kind : BoardClaim → Prop) (b b' : Board) : Prop where
  entries : b'.entries = b.entries
  receipts : b'.receipts = b.receipts
  claims : ∃ new, b'.claims = new ++ b.claims ∧ ∀ c ∈ new, kind c

namespace Extended

variable {kind kind' : BoardClaim → Prop} {b'' : Board}

theorem refl (b : Board) : Extended kind b b := ⟨rfl, rfl, [], rfl, by simp⟩

theorem claim (n : ℤ) (a : Assignment) (h : kind ⟨n, a⟩) : Extended kind b (b.claim n a) :=
  ⟨rfl, rfl, [⟨n, a⟩], rfl, by simpa using h⟩

theorem trans (h : Extended kind b b') (h' : Extended kind b' b'') : Extended kind b b'' := by
  obtain ⟨new, hnew, hkind⟩ := h.claims
  obtain ⟨new', hnew', hkind'⟩ := h'.claims
  refine ⟨h'.entries.trans h.entries, h'.receipts.trans h.receipts, new' ++ new, ?_, ?_⟩
  · rw [hnew', hnew, List.append_assoc]
  · intro c hc
    rcases List.mem_append.1 hc with hc | hc
    · exact hkind' c hc
    · exact hkind c hc

theorem mono (h : Extended kind b b') (himp : ∀ c, kind c → kind' c) : Extended kind' b b' := by
  obtain ⟨new, hnew, hkind⟩ := h.claims
  exact ⟨h.entries, h.receipts, new, hnew, fun c hc => himp c (hkind c hc)⟩

theorem mem_claims (h : Extended kind b b') {c : BoardClaim} (hc : c ∈ b.claims) :
    c ∈ b'.claims := by
  obtain ⟨new, hnew, -⟩ := h.claims
  rw [hnew]
  exact List.mem_append_right new hc

theorem kind_or_mem (h : Extended kind b b') {c : BoardClaim} (hc : c ∈ b'.claims) :
    kind c ∨ c ∈ b.claims := by
  obtain ⟨new, hnew, hkind⟩ := h.claims
  rw [hnew] at hc
  rcases List.mem_append.1 hc with hc | hc
  · exact Or.inl (hkind c hc)
  · exact Or.inr hc

theorem isAssigned (h : Extended kind b b') {n : ℤ} (hn : b.isAssigned n = true) :
    b'.isAssigned n = true := by
  obtain ⟨c, hc, hcn⟩ := isAssigned_iff.1 hn
  exact isAssigned_iff.2 ⟨c, h.mem_claims hc, hcn⟩

end Extended

/-- A claim that a turn makes: an acceptable line with the confidence of the pair. -/
def FromTurn (b : Board) (t : Strategy × InvoiceLine) (c : BoardClaim) : Prop :=
  ∃ e ∈ b.entries, t.1.Accepts b.receipts t.2 e.line ∧
    c = ⟨t.2.lineNum, ⟨e.line.lineNum, t.1, t.1.pairConfidence b.receipts t.2 e.line⟩⟩

theorem turn_extended (hb : b.Coherent) (s : Strategy) (l : InvoiceLine) :
    Extended (FromTurn b (s, l)) b (turn s b l) := by
  rcases turn_cases hb s l with ⟨h, -⟩ | ⟨e, he, -, haccepts, h⟩
  · rw [h]
    exact Extended.refl b
  · rw [h]
    exact Extended.claim _ _ ⟨e, (mem_free_iff.1 he).1, haccepts, rfl⟩

theorem runTurns_extended (hb : b.Coherent) (ts : List (Strategy × InvoiceLine)) :
    Extended (fun c => ∃ t ∈ ts, FromTurn b t c) b (runTurns ts b) := by
  induction ts generalizing b with
  | nil => exact Extended.refl b
  | cons t ts ih =>
    have hturn := turn_extended hb t.1 t.2
    rw [runTurns_cons]
    refine (hturn.mono ?_).trans ((ih (turn_coherent hb t.1 t.2)).mono ?_)
    · intro c hc
      exact ⟨t, List.mem_cons_self, hc⟩
    · rintro c ⟨u, hu, hc⟩
      refine ⟨u, List.mem_cons_of_mem _ hu, ?_⟩
      unfold FromTurn at hc ⊢
      rwa [hturn.entries, hturn.receipts] at hc

/-- The claim that an elimination makes: the two lines that are left. -/
def FromElimination (b : Board) (ls : List InvoiceLine) (c : BoardClaim) : Prop :=
  ∃ l ∈ ls, ∃ e ∈ b.entries,
    c = ⟨l.lineNum, ⟨e.line.lineNum, .elimination, Strategy.elimination.weight⟩⟩

theorem eliminate_extended (ls : List InvoiceLine) (b : Board) :
    Extended (FromElimination b ls) b (eliminate ls b) := by
  rcases eliminate_cases ls b with ⟨h, -⟩ | ⟨l, e, hl, he, h⟩
  · rw [h]
    exact Extended.refl b
  · have hopen : l ∈ openLines ls b := by simp [hl]
    have hfree : e ∈ b.free := by simp [he]
    rw [h]
    exact Extended.claim _ _
      ⟨l, (List.mem_filter.1 hopen).1, e, (mem_free_iff.1 hfree).1, rfl⟩

/-- What playing adds are claims of turns, and perhaps one of elimination. -/
theorem play_extended (hb : b.Coherent) (ls : List InvoiceLine) :
    Extended (fun c => (∃ t ∈ turnsOf (inOrder ls), FromTurn b t c) ∨
      FromElimination b (inOrder ls) c) b (play ls b) := by
  have hrun := runTurns_extended hb (turnsOf (inOrder ls))
  rw [play_eq]
  refine (hrun.mono fun _ => Or.inl).trans ((eliminate_extended _ _).mono ?_)
  intro c hc
  unfold FromElimination at hc ⊢
  rw [hrun.entries] at hc
  exact Or.inr hc

/-- No claim is more confident than its strategy allows. -/
theorem play_confidence_le (hb : b.Coherent)
    (hclaims : ∀ c ∈ b.claims, c.assignment.rawConfidence ≤ c.assignment.strategy.weight) :
    ∀ c ∈ (play ls b).claims, c.assignment.rawConfidence ≤ c.assignment.strategy.weight := by
  intro c hc
  rcases (play_extended hb ls).kind_or_mem hc with
    (⟨_, -, _, -, haccepts, rfl⟩ | ⟨_, -, _, -, rfl⟩) | hmem
  · exact (pairConfidence_mem haccepts).2
  · exact UInt8.le_refl _
  · exact hclaims c hmem

/-- Claims are made for the lines that are played. -/
theorem play_onLines (hb : b.Coherent) (hlines : ∀ c ∈ b.claims, ∃ l ∈ ls, l.lineNum = c.lineNum) :
    ∀ c ∈ (play ls b).claims, ∃ l ∈ ls, l.lineNum = c.lineNum := by
  intro c hc
  rcases (play_extended hb ls).kind_or_mem hc with
    (⟨⟨s, l⟩, ht, _, -, -, rfl⟩ | ⟨l, hl, _, -, rfl⟩) | hmem
  · exact ⟨l, mem_inOrder.1 (mem_turnsOf.1 ht).2, rfl⟩
  · exact ⟨l, mem_inOrder.1 hl, rfl⟩
  · exact hlines c hmem

end Payables.Board
