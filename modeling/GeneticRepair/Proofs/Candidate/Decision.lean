import GeneticRepair.Proofs.Candidate.Question
import GeneticRepair.Proofs.Candidate.Variation
import GeneticRepair.Proofs.Toolchain.Coherence

/-!
# Toolchains that decide what compiles

A toolchain decides which programs compile if it never fails to answer, and if a compilation and a
run of the tests say the same of a program whenever they are asked. Nothing else is known of the
runs. Whether a candidate compiles is then a function of its program, and laboratories with the
toolchain agree with themselves.
-/

namespace GeneticRepair

structure Decision (T : Type) [Toolchain T] (suite : TestSuite) where
  /-- The states in which the toolchain decides so, and which it does not leave. -/
  valid : T → Prop
  compiles : Program → Bool
  compile_returns : ∀ p t, valid t → ∃ build t', valid t' ∧
    Returns (Toolchain.compile p) t build t' ∧ build.successful = compiles p
  runTests_returns : ∀ p t, valid t → ∃ result t', valid t' ∧
    Returns (Toolchain.runTests p suite) t result t' ∧ result.compiled = compiles p

/-- A coherent toolchain decides what compiles. -/
def Coherence.decision {T : Type} [Toolchain T] {suite : TestSuite} (k : Coherence T suite) :
    Decision T suite where
  valid := k.valid
  compiles := k.compiles
  compile_returns p t ht := by
    obtain ⟨t', ht', h⟩ := k.compile_returns p t ht
    exact ⟨k.build p, t', ht', h, rfl⟩
  runTests_returns p t ht := by
    obtain ⟨t', ht', h⟩ := k.runTests_returns p t ht
    exact ⟨k.testRun p, t', ht', h, k.compiled_testRun p⟩

/-- All that is remembered says whether the program compiles. -/
structure Memo.Tells (m : Memo) (compiles : Bool) : Prop where
  build : ∀ b, m.build = some b → b.successful = compiles
  result : ∀ r, m.result = some r → r.compiled = compiles

theorem Memo.tells_empty (compiles : Bool) : Memo.empty.Tells compiles where
  build _ h := nomatch h
  result _ h := nomatch h

namespace Decision

variable {R T G : Type} [Toolchain T] {suite : TestSuite} (k : Decision T suite)

/-- The memos of known programs say what the toolchain decides. -/
structure Sound (w : Ledger) (lab : Lab T G) : Prop where
  valid : k.valid lab.toolchain
  size : lab.memos.size = w.owners.length
  tells : ∀ (i : Nat) (p : Program) (m : Memo), w.owners[i]? = some (some p) →
    lab.memos[i]? = some m → m.Tells (k.compiles p)

/-- The seed has a memo, which does not contradict the toolchain. -/
structure Ready (seed : Candidate R) (lab : Lab T G) : Prop where
  valid : k.valid lab.toolchain
  memo : ∃ m, lab.memos[seed.memo]? = some m ∧ m.Tells (k.compiles seed.program)

variable {k} {seed c : Candidate R} {w : Ledger} {s : Lab T G} {m m' : Memo} {t t' : T}

theorem Ready.exists_ledger (h : k.Ready seed s) :
    ∃ w, k.Sound w s ∧ seed.Enrolled w seed := by
  obtain ⟨w, -, hseed, hsize, htells⟩ :=
    Candidate.exists_ledger_of_memo (fun p m => m.Tells (k.compiles p)) h.memo
  exact ⟨w, ⟨h.valid, hsize, htells⟩, hseed⟩

/-! ## Turns -/

private theorem answer_tells {α : Type} {act : ExceptT ToolchainError (StateM T) α}
    {tells : α → Prop} (h : ∃ a u, k.valid u ∧ Returns act t a u ∧ tells a) {a : α}
    (ha : Returns act t a t') : k.valid t' ∧ tells a := by
  obtain ⟨b, u, hu, hb, htells⟩ := h
  obtain ⟨rfl, rfl⟩ := ha.eq hb
  exact ⟨hu, htells⟩

private theorem answer_unfailing {α : Type} {act : ExceptT ToolchainError (StateM T) α}
    {tells : α → Prop} (h : ∃ a u, k.valid u ∧ Returns act t a u ∧ tells a) {e : ToolchainError} :
    act.run.run t ≠ (.error e, t') := by
  intro he
  obtain ⟨_, _, _, ha, _⟩ := h
  cases he.symm.trans ha

private theorem tells_of_turn (hsuite : c.suite = suite) (ht : k.valid t)
    (hm : m.Tells (k.compiles c.program)) (hturn : c.Turn m t m' t') :
    k.valid t' ∧ m'.Tells (k.compiles c.program) := by
  subst hsuite
  cases hturn with
  | idle => exact ⟨ht, hm⟩
  | built _ answer =>
    obtain ⟨ht', hcompiles⟩ := answer_tells (k.compile_returns _ t ht) answer
    refine ⟨ht', { hm with build := ?_ }⟩
    intro b hb
    rw [← Option.some.inj hb, hcompiles]
  | unbuilt _ answer => exact (answer_unfailing (k.compile_returns _ t ht) answer).elim
  | tested _ _ answer =>
    obtain ⟨ht', hcompiles⟩ := answer_tells (k.runTests_returns _ t ht) answer
    refine ⟨ht', ⟨?_, ?_⟩⟩
    · intro b hb
      rw [← Option.some.inj hb]
      exact hcompiles
    · intro r hr
      rw [← Option.some.inj hr]
      exact hcompiles
  | untested _ _ answer => exact (answer_unfailing (k.runTests_returns _ t ht) answer).elim
  | skipped _ failed _ =>
    have hbuild := hm.build _ failed
    refine ⟨ht, ⟨?_, ?_⟩⟩
    · intro b hb
      rw [← Option.some.inj hb]
      exact hbuild
    · intro r hr
      rw [← Option.some.inj hr]
      exact hbuild
  | recalled _ known =>
    refine ⟨ht, { hm with build := ?_ }⟩
    intro b hb
    rw [← Option.some.inj hb]
    exact hm.result _ known
  | summarized known => exact ⟨ht, ⟨hm.build, hm.result⟩⟩

private theorem Sound.update (hs : k.Sound w s)
    (hc : w.owners[c.memo]? = some (some c.program)) (ht : k.valid t)
    (hm' : m'.Tells (k.compiles c.program)) : k.Sound w (s.update c.memo m' t) := by
  refine ⟨ht, by rw [Lab.size_memos_update, hs.size], ?_⟩
  exact Ledger.holds_set (fun p m => m.Tells (k.compiles p)) hs.tells hc hm'

variable {seed : Candidate R} {k : Decision T seed.suite}

private theorem Sound.exists_memo (hs : k.Sound w s) (hc : seed.Enrolled w c) :
    ∃ m, s.memos[c.memo]? = some m ∧ m.Tells (k.compiles c.program) := by
  have hlt : c.memo < s.memos.size := by
    rw [hs.size]
    exact (List.getElem?_eq_some_iff.mp hc.owner).1
  have hm := Array.getElem?_eq_getElem hlt
  exact ⟨_, hm, hs.tells c.memo c.program _ hc.owner hm⟩

theorem questionsKeep_sound (hc : seed.Enrolled w c) :
    c.QuestionsKeep (k.Sound (G := G) w) fun r => r.compiled = k.compiles c.program := by
  refine ⟨⟨?_, ?_⟩, ?_⟩
  · intro s hs
    obtain ⟨m, hm, htells⟩ := hs.exists_memo hc
    exact ⟨m, hm, htells.result⟩
  · intro s m m' t' hs hm hturn
    have htells := hs.tells c.memo c.program m hc.owner hm
    obtain ⟨ht', hm'⟩ := tells_of_turn hc.suite hs.valid htells hturn
    exact hs.update hc.owner ht' hm'
  · intro s r hs _ _ _
    exact { hs with }

/-! ## What candidates answer -/

theorem ends_isCompilable (hc : seed.Enrolled w c) :
    Ends (k.Sound (G := G) w) c.isCompilable (fun b => b = k.compiles c.program)
      fun _ => True := by
  intro s hs
  obtain ⟨-, hs'⟩ := (questionsKeep_sound hc).toTurnsKeep.ends_isCompilable s hs
  refine ⟨?_, hs'⟩
  obtain ⟨m, hm, htells⟩ := hs.exists_memo hc
  obtain ⟨m', t', hturn, -, hanswer⟩ := Candidate.run_isCompilable hm
  obtain ⟨-, htells'⟩ := tells_of_turn hc.suite hs.valid htells hturn
  cases hb : (c.isCompilable.run.run s).1 with
  | error e => trivial
  | ok b =>
    rcases hanswer b hb with ⟨build, hbuild, hsuccess⟩ | ⟨-, fault, hfault⟩
    · exact hsuccess.symm.trans (htells'.build build hbuild)
    · exact (answer_unfailing (k.compile_returns _ _ hs.valid) hfault).elim

/-! ## Agreement -/

variable (k)

private theorem keeps_newMemo {w : Ledger} (p : Program) :
    Keeps (k.Sound (G := G)) w Lab.newMemo fun w' i => w'.owners[i]? = some (some p) := by
  intro lab i lab' hlab h
  obtain ⟨rfl, rfl⟩ := Prod.mk.inj (returns_modifyGet.mp h)
  refine ⟨{ w with owners := w.owners ++ [some p] }, ⟨List.prefix_append .., fun _ h => h⟩,
    ⟨hlab.valid, by simp [hlab.size], ?_⟩, by simp [hlab.size]⟩
  exact Ledger.holds_push (fun p m => m.Tells (k.compiles p)) hlab.tells hlab.size
    (fun _ => Memo.tells_empty _) (some p)

theorem agreement [Scalar R] :
    Agreement seed (Diagonal (k.Sound (G := G))) fun p b => b = k.compiles p where
  draw act := repeats_diagonal_iff.mpr (Lab.keeps_draw (fun _ _ h => { h with }) act)
  newMemo p := repeats_diagonal_iff.mpr (keeps_newMemo k p)
  isCompilable hc := repeats_diagonal_iff.mpr (ends_isCompilable hc).keeps
  suspiciousness hc := by
    have hends := (questionsKeep_sound (k := k) (G := G) hc).toTurnsKeep.ends_suspiciousness
    exact repeats_diagonal_iff.mpr (hends.keeps.mono fun _ _ _ h => h.1)
  fitness hc := by
    have hends := (questionsKeep_sound (k := k) (G := G) hc).ends_fitness
    exact repeats_diagonal_iff.mpr (hends.keeps.mono fun _ _ _ _ => trivial)
  isRepair hc := by
    have hends := (questionsKeep_sound (k := k) (G := G) hc).ends_isRepair
    exact repeats_diagonal_iff.mpr (hends.keeps.mono fun _ _ _ _ => trivial)

end Decision

end GeneticRepair
