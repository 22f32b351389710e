import GeneticRepair.Proofs.Candidate.ClassicMutation
import GeneticRepair.Proofs.Candidate.Crossover
import GeneticRepair.Proofs.Code.Headers

/-!
# Crossover of statements

Structural crossover draws pairs of statements until one pair stands in the same kind of block, a
limited number of times, and exchanges that pair. It always ends, with both candidates as they are
or with two new ones. The candidates stay as they are for four reasons, each of which suffices: one
of them does not parse, one has nothing to exchange, no pair that is drawn matches, or one of the
modules that come of the exchange has no text.
-/

namespace GeneticRepair

open GeneticRepair.Code

/-- What structural crossover may exchange: neither definitions nor docstrings. -/
def Code.Node.exchangeables (module : Node) : List Statement :=
  module.statements.filter Statement.exchangeable

namespace Candidate

variable {R T G : Type} [RandomSource G] {c d : Candidate R} {m n : Node} {x y mine theirs : Statement}
  {xs ys : List Statement} {pair : Statement × Statement} {s s' : Lab T G} {attempts : Nat}

/-! ## Pairs of statements -/

private theorem exists_oneOf {α : Type} (x : α) (xs : List α) (s : Lab T G) :
    ∃ a t, Returns (oneOf x xs) s a t :=
  ⟨_, _, Lab.returns_draw.mpr ⟨_, rfl, rfl⟩⟩

/-- Pairs of statements are drawn one after another, from the first ones `x :: xs` and the second ones
`y :: ys`. -/
inductive DrawsPairs (x : Statement) (xs : List Statement) (y : Statement) (ys : List Statement) :
    Lab T G → List (Statement × Statement) → Lab T G → Prop
  | none (s : Lab T G) : DrawsPairs x xs y ys s [] s
  | more {s t u v : Lab T G} {a b : Statement} {pairs : List (Statement × Statement)}
      (first : Returns (oneOf x xs) s a t) (second : Returns (oneOf y ys) t b u)
      (rest : DrawsPairs x xs y ys u pairs v) : DrawsPairs x xs y ys s ((a, b) :: pairs) v

/-- Both statements stand in the same kind of node. -/
def Matched (pair : Statement × Statement) : Prop :=
  pair.1.parent = pair.2.parent

/-- A pair is drawn that matches, which no pair before it does. -/
structure DrawsMatch (x : Statement) (xs : List Statement) (y : Statement) (ys : List Statement)
    (attempts : Nat) (s : Lab T G) (pair : Statement × Statement) (s' : Lab T G) : Prop where
  matched : Matched pair
  drawn : ∃ earlier, earlier.length < attempts ∧ (∀ other ∈ earlier, ¬ Matched other) ∧
    DrawsPairs x xs y ys s (earlier ++ [pair]) s'

private theorem DrawsPairs.mem {pairs : List (Statement × Statement)}
    (h : DrawsPairs x xs y ys s pairs s')
    (hpair : pair ∈ pairs) : pair.1 ∈ x :: xs ∧ pair.2 ∈ y :: ys := by
  induction h with
  | none => cases hpair
  | more first second _ ih =>
    rcases List.mem_cons.mp hpair with rfl | hpair
    · exact ⟨(returns_oneOf first).1, (returns_oneOf second).1⟩
    · exact ih hpair

private theorem DrawsPairs.memos_eq {pairs : List (Statement × Statement)}
    (h : DrawsPairs x xs y ys s pairs s') : s'.memos = s.memos := by
  induction h with
  | none => rfl
  | more first second _ ih => rw [ih, (returns_oneOf second).2, (returns_oneOf first).2]

private theorem DrawsMatch.mem (h : DrawsMatch x xs y ys attempts s pair s') :
    pair.1 ∈ x :: xs ∧ pair.2 ∈ y :: ys := by
  obtain ⟨earlier, -, -, hdrawn⟩ := h.drawn
  exact hdrawn.mem (by simp)

private theorem DrawsMatch.memos_eq (h : DrawsMatch x xs y ys attempts s pair s') :
    s'.memos = s.memos := by
  obtain ⟨earlier, -, -, hdrawn⟩ := h.drawn
  exact hdrawn.memos_eq

private theorem returns_drawPair_succ {r : Option (Statement × Statement)} :
    Returns (drawPair x xs y ys (attempts + 1)) s r s' ↔
      ∃ a t b u, Returns (oneOf x xs) s a t ∧ Returns (oneOf y ys) t b u ∧
        (Matched (a, b) ∧ r = some (a, b) ∧ s' = u ∨
          ¬ Matched (a, b) ∧ Returns (drawPair x xs y ys attempts) u r s') := by
  rw [drawPair, returns_bind]
  constructor
  · rintro ⟨a, t, hfirst, h⟩
    obtain ⟨b, u, hsecond, h⟩ := returns_bind.mp h
    refine ⟨a, t, b, u, hfirst, hsecond, ?_⟩
    split at h
    · rename_i hmatched
      obtain ⟨rfl, rfl⟩ := returns_pure.mp h
      exact .inl ⟨by simpa [Matched] using hmatched, rfl, rfl⟩
    · rename_i hapart
      exact .inr ⟨by simpa [Matched] using hapart, h⟩
  · rintro ⟨a, t, b, u, hfirst, hsecond, h⟩
    refine ⟨a, t, hfirst, returns_bind.mpr ⟨b, u, hsecond, ?_⟩⟩
    rcases h with ⟨hmatched, rfl, rfl⟩ | ⟨hapart, h⟩
    · rw [if_pos (by simpa [Matched] using hmatched)]
      exact returns_pure.mpr ⟨rfl, rfl⟩
    · rwa [if_neg (by simpa [Matched] using hapart)]

private theorem returns_drawPair_none : Returns (drawPair x xs y ys attempts) s none s' ↔
    ∃ pairs, pairs.length = attempts ∧ (∀ pair ∈ pairs, ¬ Matched pair) ∧
      DrawsPairs x xs y ys s pairs s' := by
  induction attempts generalizing s with
  | zero =>
    rw [drawPair, returns_pure]
    constructor
    · rintro ⟨-, rfl⟩
      exact ⟨[], rfl, by simp, .none _⟩
    · rintro ⟨pairs, hlength, -, hdrawn⟩
      obtain rfl := List.eq_nil_of_length_eq_zero hlength
      cases hdrawn
      exact ⟨rfl, rfl⟩
  | succ attempts ih =>
    rw [returns_drawPair_succ]
    constructor
    · rintro ⟨a, t, b, u, hfirst, hsecond, ⟨-, h, -⟩ | ⟨hapart, h⟩⟩
      · cases h
      · obtain ⟨pairs, hlength, hnone, hdrawn⟩ := ih.mp h
        exact ⟨(a, b) :: pairs, by simp [hlength], List.forall_mem_cons.mpr ⟨hapart, hnone⟩,
          .more hfirst hsecond hdrawn⟩
    · rintro ⟨pairs, hlength, hnone, hdrawn⟩
      cases hdrawn with
      | none => cases hlength
      | more hfirst hsecond hrest =>
        obtain ⟨hapart, hnone⟩ := List.forall_mem_cons.mp hnone
        exact ⟨_, _, _, _, hfirst, hsecond,
          .inr ⟨hapart, ih.mpr ⟨_, by simpa using hlength, hnone, hrest⟩⟩⟩

private theorem returns_drawPair_some : Returns (drawPair x xs y ys attempts) s (some pair) s' ↔
    DrawsMatch x xs y ys attempts s pair s' := by
  induction attempts generalizing s with
  | zero =>
    rw [drawPair, returns_pure]
    constructor
    · rintro ⟨h, -⟩
      cases h
    · rintro ⟨-, earlier, hlength, -⟩
      cases hlength
  | succ attempts ih =>
    rw [returns_drawPair_succ]
    constructor
    · rintro ⟨a, t, b, u, hfirst, hsecond, ⟨hmatched, hpair, rfl⟩ | ⟨hapart, h⟩⟩
      · obtain rfl := Option.some.inj hpair
        exact ⟨hmatched, [], by simp, by simp, .more hfirst hsecond (.none _)⟩
      · obtain ⟨hmatched, earlier, hlength, hnone, hdrawn⟩ := ih.mp h
        exact ⟨hmatched, (a, b) :: earlier, by simpa using hlength,
          List.forall_mem_cons.mpr ⟨hapart, hnone⟩, .more hfirst hsecond hdrawn⟩
    · rintro ⟨hmatched, earlier, hlength, hnone, hdrawn⟩
      cases earlier with
      | nil =>
        cases hdrawn with
        | more hfirst hsecond hrest =>
          cases hrest
          exact ⟨_, _, _, _, hfirst, hsecond, .inl ⟨hmatched, rfl, rfl⟩⟩
      | cons other earlier =>
        cases hdrawn with
        | more hfirst hsecond hrest =>
          obtain ⟨hapart, hnone⟩ := List.forall_mem_cons.mp hnone
          exact ⟨_, _, _, _, hfirst, hsecond,
            .inr ⟨hapart, ih.mpr ⟨hmatched, earlier, by simpa using hlength, hnone, hrest⟩⟩⟩

/-- The loop always ends. -/
theorem exists_drawPair (x : Statement) (xs : List Statement) (y : Statement) (ys : List Statement)
    (attempts : Nat) (s : Lab T G) : ∃ r s', Returns (drawPair x xs y ys attempts) s r s' := by
  induction attempts generalizing s with
  | zero => exact ⟨none, s, returns_pure.mpr ⟨rfl, rfl⟩⟩
  | succ attempts ih =>
    obtain ⟨a, t, hfirst⟩ := exists_oneOf x xs s
    obtain ⟨b, u, hsecond⟩ := exists_oneOf y ys t
    by_cases hmatched : Matched (a, b)
    · exact ⟨some (a, b), u, returns_drawPair_succ.mpr ⟨a, t, b, u, hfirst, hsecond,
        .inl ⟨hmatched, rfl, rfl⟩⟩⟩
    · obtain ⟨r, s', hrest⟩ := ih u
      exact ⟨r, s', returns_drawPair_succ.mpr ⟨a, t, b, u, hfirst, hsecond,
        .inr ⟨hmatched, hrest⟩⟩⟩

/-! ## Outcomes -/

/-- Two modules that come of two others by an exchange of statements of the same kind of block, of
which neither is a definition or a docstring. No statement is lost or invented. -/
structure Exchanges (m n : Node) (mine theirs : Statement) (r s : Node) : Prop where
  made : m.exchange n mine theirs = .ok (r, s)
  mine_mem : mine ∈ m.statements
  theirs_mem : theirs ∈ n.statements
  parent_eq : mine.parent = theirs.parent
  mine_movable : mine.definition = false ∧ mine.docstring = false
  theirs_movable : theirs.definition = false ∧ theirs.docstring = false
  conserved : (r.headers ++ s.headers).Perm (m.headers ++ n.headers)

/-- Both candidates parse, and both modules have something to exchange. -/
structure Crossable (c d : Candidate R) (m n : Node) (x : Statement) (xs : List Statement)
    (y : Statement) (ys : List Statement) : Prop where
  parsed : c.parsed? = some m
  parsed' : d.parsed? = some n
  exchangeables : m.exchangeables = x :: xs
  exchangeables' : n.exchangeables = y :: ys

/-- Why two candidates are left as they are. -/
inductive Barred (c d : Candidate R) (attempts : Nat) (lab : Lab T G) : Lab T G → Prop
  | unparsable (h : c.parsed? = none ∨ d.parsed? = none) : Barred c d attempts lab lab
  | poolless {m n : Node} (hm : c.parsed? = some m) (hn : d.parsed? = some n)
      (h : m.exchangeables = [] ∨ n.exchangeables = []) : Barred c d attempts lab lab
  | unmatched {m n : Node} {x y : Statement} {xs ys : List Statement} {lab' : Lab T G}
      {pairs : List (Statement × Statement)} (h : Crossable c d m n x xs y ys)
      (count : pairs.length = attempts) (apart : ∀ pair ∈ pairs, ¬ Matched pair)
      (drawn : DrawsPairs x xs y ys lab pairs lab') : Barred c d attempts lab lab'
  | unprintable {m n r s : Node} {x y : Statement} {xs ys : List Statement} {lab' : Lab T G}
      {pair : Statement × Statement} (h : Crossable c d m n x xs y ys)
      (drawn : DrawsMatch x xs y ys attempts lab pair lab')
      (made : m.exchange n pair.1 pair.2 = .ok (r, s))
      (textless : (∃ e, r.toLines = .error e) ∨ ∃ e, s.toLines = .error e) :
      Barred c d attempts lab lab'

/-- Two candidates of the kin of two others, with memos that are new, whose lines are those of the
modules that come of an exchange. -/
structure Crossed (c d : Candidate R) (attempts : Nat) (lab : Lab T G) (u v : Candidate R) : Prop
    where
  kin : c.Kin u
  kin' : d.Kin v
  memo : u.memo = lab.memos.size
  memo' : v.memo = lab.memos.size + 1
  exchanged : ∃ m n x xs y ys pair lab' r s, Crossable c d m n x xs y ys ∧
    DrawsMatch x xs y ys attempts lab pair lab' ∧ Exchanges m n pair.1 pair.2 r s ∧
    r.toLines = .ok u.lines ∧ s.toLines = .ok v.lines

private theorem Crossable.exchanges (h : Crossable c d m n x xs y ys) (hpair : pair.1 ∈ x :: xs)
    (hpair' : pair.2 ∈ y :: ys) (hmatched : Matched pair) :
    ∃ r s, Exchanges m n pair.1 pair.2 r s := by
  have hm := shaped_of_parsed? h.parsed
  have hn := shaped_of_parsed? h.parsed'
  rw [← h.exchangeables] at hpair
  rw [← h.exchangeables'] at hpair'
  obtain ⟨hmine, hmovable⟩ := List.mem_filter.mp hpair
  obtain ⟨htheirs, hmovable'⟩ := List.mem_filter.mp hpair'
  simp only [Statement.exchangeable, Bool.and_eq_true, Bool.not_eq_true'] at hmovable hmovable'
  obtain ⟨r, s, hmade⟩ := Node.exists_exchange hm hn hmine htheirs
  exact ⟨_, _, hmade, hmine, htheirs, hmatched, hmovable, hmovable',
    Node.headers_exchange_perm hm hn hmine htheirs hmade⟩

/-! ## Structural crossover -/

variable {q : Quantity} {maxAttempts : Int} {lab lab' : Lab T G} {u v : Candidate R}

private theorem crossover_eq_self (hcrossover : c.strategies.crossover = .structural q)
    (h : c.parsed? = none ∨ d.parsed? = none) :
    (c.crossover d : Action T G _) = pure (c, d) := by
  rw [crossover, hcrossover]
  dsimp only
  split
  · simp_all
  · rfl

private theorem crossover_eq (hcrossover : c.strategies.crossover = .structural q)
    (hm : c.parsed? = some m) (hn : d.parsed? = some n) :
    (c.crossover d : Action T G _) = crossStatements q c d m n := by
  rw [crossover, hcrossover]
  dsimp only
  rw [hm, hn]

private theorem crossStatements_eq_self (h : m.exchangeables = [] ∨ n.exchangeables = []) :
    (crossStatements q c d m n : Action T G _) = pure (c, d) := by
  rw [crossStatements]
  split
  · simp_all [Node.exchangeables]
  · rfl

private theorem crossStatements_eq (hattempts : q.int? = some maxAttempts)
    (h : Crossable c d m n x xs y ys) : (crossStatements q c d m n : Action T G _) = do
      match ← drawPair x xs y ys maxAttempts.toNat with
      | none => return (c, d)
      | some (mine, theirs) =>
        match ← Lab.orFail .path (exchangedLines? m n mine theirs) with
        | some (xs, ys) => return (← c.derive xs, ← d.derive ys)
        | none => return (c, d) := by
  have hx : m.statements.filter Statement.exchangeable = x :: xs := h.exchangeables
  have hy : n.statements.filter Statement.exchangeable = y :: ys := h.exchangeables'
  rw [crossStatements, hx, hy]
  dsimp only
  generalize q.int? = attempts at hattempts ⊢
  subst hattempts
  rfl

private theorem exchangedLines?_eq {r s : Node} (hmade : m.exchange n mine theirs = .ok (r, s)) :
    exchangedLines? m n mine theirs = .ok (match r.toLines, s.toLines with
      | .ok us, .ok vs => some (us, vs)
      | _, _ => none) := by
  rw [exchangedLines?, hmade, ok_bind]
  dsimp only
  cases r.toLines with
  | error e => rfl
  | ok us => cases s.toLines <;> rfl

/-- Each of the reasons makes crossover leave the candidates as they are. -/
theorem returns_of_barred (hcrossover : c.strategies.crossover = .structural q)
    (hattempts : q.int? = some maxAttempts) (h : Barred c d maxAttempts.toNat lab lab') :
    Returns (c.crossover d) lab (c, d) lab' := by
  cases h with
  | unparsable h =>
    rw [crossover_eq_self hcrossover h]
    exact returns_pure.mpr ⟨rfl, rfl⟩
  | poolless hm hn h =>
    rw [crossover_eq hcrossover hm hn, crossStatements_eq_self h]
    exact returns_pure.mpr ⟨rfl, rfl⟩
  | unmatched h hcount hapart hdrawn =>
    rw [crossover_eq hcrossover h.parsed h.parsed', crossStatements_eq hattempts h]
    exact returns_bind.mpr ⟨none, lab', returns_drawPair_none.mpr ⟨_, hcount, hapart, hdrawn⟩,
      returns_pure.mpr ⟨rfl, rfl⟩⟩
  | unprintable h hdrawn hmade htextless =>
    rw [crossover_eq hcrossover h.parsed h.parsed', crossStatements_eq hattempts h]
    refine returns_bind.mpr ⟨some _, lab', returns_drawPair_some.mpr hdrawn, ?_⟩
    refine returns_bind.mpr ⟨none, lab', Lab.returns_orFail.mpr ⟨?_, rfl⟩,
      returns_pure.mpr ⟨rfl, rfl⟩⟩
    rw [exchangedLines?_eq hmade]
    rcases htextless with ⟨e, he⟩ | ⟨e, he⟩
    · rw [he]
    · rw [he]
      split <;> simp_all

private theorem barred_or_crossed (hcrossover : c.strategies.crossover = .structural q)
    (hattempts : q.int? = some maxAttempts) (lab : Lab T G) :
    (∃ lab', Barred c d maxAttempts.toNat lab lab') ∨
      ∃ u v lab', Returns (c.crossover d) lab (u, v) lab' ∧
        Crossed c d maxAttempts.toNat lab u v := by
  cases hm : c.parsed? with
  | none => exact .inl ⟨lab, .unparsable (.inl hm)⟩
  | some m =>
  cases hn : d.parsed? with
  | none => exact .inl ⟨lab, .unparsable (.inr hn)⟩
  | some n =>
  cases hx : m.exchangeables with
  | nil => exact .inl ⟨lab, .poolless hm hn (.inl hx)⟩
  | cons x xs =>
  cases hy : n.exchangeables with
  | nil => exact .inl ⟨lab, .poolless hm hn (.inr hy)⟩
  | cons y ys =>
  have h : Crossable c d m n x xs y ys := ⟨hm, hn, hx, hy⟩
  obtain ⟨pair, s, hpair⟩ := exists_drawPair x xs y ys maxAttempts.toNat lab
  cases pair with
  | none =>
    obtain ⟨pairs, hcount, hapart, hdrawn⟩ := returns_drawPair_none.mp hpair
    exact .inl ⟨s, .unmatched h hcount hapart hdrawn⟩
  | some pair =>
    have hdrawn := returns_drawPair_some.mp hpair
    obtain ⟨r, r', hexchanges⟩ := h.exchanges hdrawn.mem.1 hdrawn.mem.2 hdrawn.matched
    have hmade := hexchanges.made
    cases hr : r.toLines with
    | error e => exact .inl ⟨s, .unprintable h hdrawn hmade (.inl ⟨e, hr⟩)⟩
    | ok us =>
    cases hr' : r'.toLines with
    | error e => exact .inl ⟨s, .unprintable h hdrawn hmade (.inr ⟨e, hr'⟩)⟩
    | ok vs =>
      have hlines := exchangedLines?_eq hmade
      rw [hr, hr'] at hlines
      have hreturns := returns_derive_both (c := c) (d := d) us vs s
      rw [hdrawn.memos_eq] at hreturns
      have hcrossed : Crossed c d maxAttempts.toNat lab
          { c with lines := us, memo := lab.memos.size }
          { d with lines := vs, memo := lab.memos.size + 1 } :=
        ⟨⟨rfl, rfl, rfl⟩, ⟨rfl, rfl, rfl⟩, rfl, rfl, m, n, x, xs, y, ys, pair, s, r, r', h, hdrawn,
          hexchanges, hr, hr'⟩
      refine .inr ⟨_, _, { s with memos := (lab.memos.push .empty).push .empty }, ?_, hcrossed⟩
      rw [crossover_eq hcrossover hm hn, crossStatements_eq hattempts h]
      exact returns_bind.mpr ⟨some pair, s, hpair, returns_bind.mpr ⟨some (us, vs), s,
        Lab.returns_orFail.mpr ⟨hlines, rfl⟩, hreturns⟩⟩

/-- Whatever is drawn, structural crossover of two candidates, whose memos the laboratory keeps, gives
both candidates themselves for one of four reasons, or else two new ones whose modules come of one
exchange, which conserves all statements. Each of the reasons makes it give the candidates
themselves. -/
theorem crossover_structural (hcrossover : c.strategies.crossover = .structural q)
    (hattempts : q.int? = some maxAttempts) (hc : c.memo < lab.memos.size)
    (hd : d.memo < lab.memos.size) :
    (∃ u v lab', Returns (c.crossover d) lab (u, v) lab' ∧
      (u = c ∧ v = d ∧ Barred c d maxAttempts.toNat lab lab' ∨
        u ∉ [c, d] ∧ v ∉ [c, d] ∧ Crossed c d maxAttempts.toNat lab u v)) ∧
    ∀ lab', Barred c d maxAttempts.toNat lab lab' → Returns (c.crossover d) lab (c, d) lab' := by
  refine ⟨?_, fun lab' h => returns_of_barred hcrossover hattempts h⟩
  rcases barred_or_crossed (d := d) hcrossover hattempts lab with
    ⟨lab', hbarred⟩ | ⟨u, v, lab', hreturns, hcrossed⟩
  · exact ⟨c, d, lab', returns_of_barred hcrossover hattempts hbarred, .inl ⟨rfl, rfl, hbarred⟩⟩
  · refine ⟨u, v, lab', hreturns, .inr ⟨?_, ?_, hcrossed⟩⟩
    · have hu := hcrossed.memo
      rw [List.mem_pair]
      rintro (rfl | rfl)
      · omega
      · omega
    · have hv := hcrossed.memo'
      rw [List.mem_pair]
      rintro (rfl | rfl)
      · omega
      · omega

end Candidate

/-! ## The third of three pairs -/

namespace ThirdPair

def candidate (lines : List String) (memo : Nat) (attempts : Int) : Candidate Quantity :=
  ⟨"xyz", lines, ⟨"test_z.py", [], []⟩,
    ⟨.classic true, .structural (.ofInt attempts), .genprog, ⟨.ofInt 1, .ofInt 10⟩⟩, memo⟩

def first (attempts : Int) : Candidate Quantity :=
  candidate ["a = 1", "if a:", "    b = 2"] 0 attempts

def second (attempts : Int) : Candidate Quantity :=
  candidate ["while x:", "    y = 2", "z = 3"] 1 attempts

def lab : Lab Unit Counter :=
  ⟨(), #[.empty, .empty], none, ⟨0⟩⟩

end ThirdPair

namespace Candidate

/-- Two pairs do not match and the third one does: whether it is drawn depends on the limit. -/
theorem crossover_structural_of_thirdPair :
    (∃ u v lab', Returns ((ThirdPair.first 3).crossover (ThirdPair.second 3)) ThirdPair.lab (u, v)
        lab' ∧ Crossed (ThirdPair.first 3) (ThirdPair.second 3) 3 ThirdPair.lab u v) ∧
      ∃ lab', Barred (ThirdPair.first 2) (ThirdPair.second 2) 2 ThirdPair.lab lab' ∧
        Returns ((ThirdPair.first 2).crossover (ThirdPair.second 2)) ThirdPair.lab
          (ThirdPair.first 2, ThirdPair.second 2) lab' := by
  have hmemo : ∀ attempts ∈ [(2 : Int), 3],
      (((ThirdPair.first attempts).crossover (ThirdPair.second attempts)).run.run
        ThirdPair.lab).1.toOption.map (·.1.memo) = some (if attempts = 3 then 2 else 0) := by
    decide +kernel
  have hcross : ∀ attempts : Int, _ := fun attempts =>
    crossover_structural (c := ThirdPair.first attempts) (d := ThirdPair.second attempts) rfl rfl
      (by decide : 0 < ThirdPair.lab.memos.size) (by decide : 1 < ThirdPair.lab.memos.size)
  constructor
  · obtain ⟨u, v, lab', hreturns, ⟨rfl, rfl, -⟩ | ⟨-, -, hcrossed⟩⟩ := (hcross 3).1
    · have hthree := hmemo 3 (by simp)
      rw [hreturns] at hthree
      cases hthree
    · exact ⟨u, v, lab', hreturns, hcrossed⟩
  · obtain ⟨u, v, lab', hreturns, ⟨rfl, rfl, hbarred⟩ | ⟨-, -, hcrossed⟩⟩ := (hcross 2).1
    · exact ⟨lab', hbarred, (hcross 2).2 lab' hbarred⟩
    · have htwo := hmemo 2 (by simp)
      rw [hreturns] at htwo
      have hold : u.memo = 0 := Option.some.inj htwo
      rw [hcrossed.memo] at hold
      cases hold

end Candidate

end GeneticRepair
