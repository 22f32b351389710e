import GeneticRepair.Candidate.Evaluation
import GeneticRepair.Proofs.Toolchain.Coherence

/-!
# Evaluation with a coherent toolchain

A ledger records of a laboratory which programs its memos are about, and the baseline. With a
coherent toolchain the memos say of their programs what the toolchain would say, whatever was asked
before; the answers about a candidate are then functions of its program and the baseline.
-/

namespace GeneticRepair

structure Ledger where
  /-- The program of each memo, as far as it is known. -/
  owners : List (Option Program)
  baseline : Option Baseline

instance : Preorder Ledger where
  le w w' := w.owners <+: w'.owners ∧ ∀ b, w.baseline = some b → w'.baseline = some b
  le_refl w := ⟨List.prefix_rfl, fun _ h => h⟩
  le_trans _ _ _ h₁ h₂ := ⟨h₁.1.trans h₂.1, fun b h => h₂.2 b (h₁.2 b h)⟩

namespace Coherence

variable {T : Type} [Toolchain T] {suite : TestSuite} (k : Coherence T suite)

/-- The run says of the program what a run by the toolchain says; if the program does not compile,
only that. -/
def Reports (p : Program) (r : TestRun) : Prop :=
  r.compiled = k.compiles p ∧
    (k.compiles p → r.passing = k.passing p ∧ r.failing = k.failing p)

structure Fits (p : Program) (m : Memo) : Prop where
  build : ∀ b, m.build = some b → b.successful = k.compiles p
  result : ∀ r, m.result = some r → k.Reports p r

/-- The laboratory is as its ledger says; the memos of known programs and the baseline agree with
the toolchain. -/
structure Sound {G : Type} (w : Ledger) (lab : Lab T G) : Prop where
  valid : k.valid lab.toolchain
  size : lab.memos.size = w.owners.length
  fits : ∀ (i : Nat) (p : Program) (m : Memo), w.owners[i]? = some (some p) →
    lab.memos[i]? = some m → k.Fits p m
  baseline_eq : lab.baseline = w.baseline
  baseline : ∀ b, w.baseline = some b → ∃ p, k.compiles p ∧ b = ⟨k.passing p, k.failing p⟩

variable {k} {p : Program}

private theorem reports_testRun : k.Reports p (k.testRun p) :=
  ⟨k.compiled_testRun p, fun _ => ⟨rfl, rfl⟩⟩

private theorem fits_empty : k.Fits p .empty where
  build _ h := nomatch h
  result _ h := nomatch h

end Coherence

/-- The candidate is a variant of the seed, and its memo is recorded as that of its program. -/
structure Candidate.Enrolled {R : Type} (seed : Candidate R) (w : Ledger) (c : Candidate R) :
    Prop where
  identity : c.identity = seed.identity
  suite : c.suite = seed.suite
  strategies : c.strategies = seed.strategies
  owner : w.owners[c.memo]? = some (some c.program)

theorem Candidate.Enrolled.mono {R : Type} {seed c : Candidate R} {w w' : Ledger} (hw : w ≤ w')
    (h : seed.Enrolled w c) : seed.Enrolled w' c := by
  obtain ⟨new, hnew⟩ := hw.1
  have hlt := (List.getElem?_eq_some_iff.mp h.owner).1
  refine ⟨h.identity, h.suite, h.strategies, ?_⟩
  rw [← hnew, List.getElem?_append_left hlt, h.owner]

/-- The ledger that knows whose memo that of the seed is, and nothing else. -/
def Candidate.soleLedger {R : Type} (seed : Candidate R) (size : Nat) : Ledger :=
  ⟨(List.replicate size none).set seed.memo (some seed.program), none⟩

section SoleLedger

variable {R : Type} {seed : Candidate R} {size : Nat}

@[simp] theorem Candidate.length_owners_soleLedger :
    (seed.soleLedger size).owners.length = size := by
  simp [soleLedger]

theorem Candidate.enrolled_soleLedger (h : seed.memo < size) :
    seed.Enrolled (seed.soleLedger size) seed :=
  ⟨rfl, rfl, rfl, by simp [soleLedger, h]⟩

private theorem Candidate.owner_soleLedger {i : Nat} {p : Program}
    (h : (seed.soleLedger size).owners[i]? = some (some p)) :
    i = seed.memo ∧ p = seed.program := by
  rw [soleLedger, List.getElem?_set] at h
  by_cases hi : seed.memo = i
  · simp only [hi, if_true] at h
    split at h
    · exact ⟨hi.symm, (Option.some.inj (Option.some.inj h)).symm⟩
    · cases h
  · simp [hi, List.getElem?_replicate] at h

/-- What holds of the memo of the seed holds of all memos that the ledger knows. -/
theorem Candidate.exists_ledger_of_memo {memos : Array Memo} (holds : Program → Memo → Prop)
    (h : ∃ m, memos[seed.memo]? = some m ∧ holds seed.program m) :
    ∃ w, w.baseline = none ∧ seed.Enrolled w seed ∧ memos.size = w.owners.length ∧
      ∀ (i : Nat) (p : Program) (m : Memo), w.owners[i]? = some (some p) →
        memos[i]? = some m → holds p m := by
  obtain ⟨m, hm, hholds⟩ := h
  have hlt : seed.memo < memos.size := (Array.getElem?_eq_some_iff.mp hm).1
  refine ⟨seed.soleLedger memos.size, rfl, enrolled_soleLedger hlt, length_owners_soleLedger.symm,
    ?_⟩
  intro i p m' hp hm'
  obtain ⟨rfl, rfl⟩ := owner_soleLedger hp
  obtain rfl := Option.some.inj (hm.symm.trans hm')
  exact hholds

end SoleLedger

section Known

variable {owners : List (Option Program)} {memos : Array Memo} (holds : Program → Memo → Prop)

/-- A new memo is empty, and the others are as they were. -/
theorem Ledger.holds_push
    (h : ∀ (i : Nat) (p : Program) (m : Memo), owners[i]? = some (some p) →
      memos[i]? = some m → holds p m) (hsize : memos.size = owners.length)
    (hempty : ∀ p, holds p .empty) (owner : Option Program) (i : Nat) (p : Program) (m : Memo)
    (hp : (owners ++ [owner])[i]? = some (some p)) (hm : (memos.push .empty)[i]? = some m) :
    holds p m := by
  rw [Array.getElem?_push] at hm
  split at hm
  · obtain rfl := Option.some.inj hm
    exact hempty p
  · have hi : i < owners.length := by
      rw [← hsize]
      exact (Array.getElem?_eq_some_iff.mp hm).1
    rw [List.getElem?_append_left hi] at hp
    exact h i p m hp hm

/-- A memo may be replaced by what holds of its program. -/
theorem Ledger.holds_set
    (h : ∀ (i : Nat) (p : Program) (m : Memo), owners[i]? = some (some p) →
      memos[i]? = some m → holds p m) {j : Nat} {q : Program} {n : Memo}
    (howner : owners[j]? = some (some q)) (hn : holds q n) (i : Nat) (p : Program) (m : Memo)
    (hp : owners[i]? = some (some p)) (hm : (memos.setIfInBounds j n)[i]? = some m) :
    holds p m := by
  rw [Array.getElem?_setIfInBounds] at hm
  split at hm
  · rename_i hji
    subst hji
    obtain rfl : p = q := Option.some.inj (Option.some.inj (hp.symm.trans howner))
    split at hm
    · obtain rfl := Option.some.inj hm
      exact hn
    · cases hm
  · exact h i p m hp hm

end Known

/-- The laboratory is ready for a search from the seed: the seed has a memo, which does not
contradict the toolchain, and there is no baseline. -/
structure Coherence.Ready {R T G : Type} [Toolchain T] {seed : Candidate R}
    (k : Coherence T seed.suite) (lab : Lab T G) : Prop where
  valid : k.valid lab.toolchain
  baseline : lab.baseline = none
  memo : ∃ m, lab.memos[seed.memo]? = some m ∧ k.Fits seed.program m

variable {R T G α : Type} [Toolchain T] {seed c : Candidate R} {k : Coherence T seed.suite}
  {w : Ledger}

theorem Coherence.Ready.exists_ledger {lab : Lab T G} (h : k.Ready lab) :
    ∃ w, k.Sound w lab ∧ w.baseline = none ∧ seed.Enrolled w seed := by
  obtain ⟨w, hbase, hseed, hsize, hfits⟩ := Candidate.exists_ledger_of_memo k.Fits h.memo
  refine ⟨w, ⟨h.valid, hsize, hfits, h.baseline.trans hbase.symm, ?_⟩, hbase, hseed⟩
  intro b hb
  cases hbase.symm.trans hb

theorem Coherence.ready_new {identity : String} {lines : List String} {suite : TestSuite}
    {strategies : Strategies R} {lab lab' : Lab T G} (hvalid : k.valid lab.toolchain)
    (hbase : lab.baseline = none)
    (h : Returns (Candidate.new identity lines suite strategies) lab seed lab') : k.Ready lab' := by
  obtain ⟨i, t, hnew, hseed⟩ := returns_bind.mp h
  obtain ⟨rfl, rfl⟩ := returns_pure.mp hseed
  obtain ⟨rfl, rfl⟩ := Prod.mk.inj (returns_modifyGet.mp hnew)
  exact ⟨hvalid, hbase, .empty, by simp, Coherence.fits_empty⟩

namespace Lab

theorem achieves_memo (hc : seed.Enrolled w c) :
    Achieves (k.Sound (G := G)) w (memo c.memo) fun w' m => w' = w ∧ k.Fits c.program m := by
  intro lab hlab
  refine ⟨(lab.memos[c.memo]?).getD .empty, lab, by simp [memo], w, le_rfl, hlab, rfl, ?_⟩
  cases h : lab.memos[c.memo]? with
  | none => exact Coherence.fits_empty
  | some m => exact hlab.fits c.memo c.program m hc.owner h

theorem achieves_setMemo (hc : seed.Enrolled w c) {m : Memo} (hm : k.Fits c.program m) :
    Achieves (k.Sound (G := G)) w (setMemo c.memo m) fun w' _ => w' = w := by
  intro lab hlab
  refine ⟨(), _, by simp only [setMemo, returns_modify]; rfl, w, le_rfl, ?_, rfl⟩
  refine { hlab with size := ?_, fits := Ledger.holds_set k.Fits hlab.fits hc.owner hm }
  simpa using hlab.size

theorem achieves_newMemo (p : Program) :
    Achieves (k.Sound (G := G)) w newMemo fun w' i =>
      w' = { w with owners := w.owners ++ [some p] } ∧ w'.owners[i]? = some (some p) := by
  intro lab hlab
  refine ⟨lab.memos.size, _, returns_modifyGet.mpr rfl, { w with owners := w.owners ++ [some p] },
    ⟨List.prefix_append .., fun _ h => h⟩, ?_, rfl, ?_⟩
  · have hfits := Ledger.holds_push k.Fits hlab.fits hlab.size (fun _ => Coherence.fits_empty)
      (some p)
    exact { hlab with size := by simp [hlab.size], fits := hfits }
  · simp [hlab.size]

omit [Toolchain T] in
theorem returns_use {act : ExceptT ToolchainError (StateM T) α} {lab : Lab T G} {a : α}
    {t : T} (h : Returns act lab.toolchain a t) :
    Returns (use act) lab (.ok a) { lab with toolchain := t } := by
  have hact : act.run lab.toolchain = (.ok a, t) := h
  rw [use, returns_modifyGet, hact]

private theorem achieves_use {act : ExceptT ToolchainError (StateM T) α} {a : α}
    (h : ∀ t, k.valid t → ∃ t', k.valid t' ∧ Returns act t a t') :
    Achieves (k.Sound (G := G)) w (use act) fun w' r => w' = w ∧ r = .ok a := by
  intro lab hlab
  obtain ⟨t, ht, hret⟩ := h lab.toolchain hlab.valid
  exact ⟨.ok a, _, returns_use hret, w, le_rfl, { hlab with valid := ht }, rfl, rfl⟩

end Lab

namespace Candidate

private theorem achieves_rememberBuild (hc : seed.Enrolled w c) {m : Memo} {build : BuildOutcome}
    (hm : k.Fits c.program m) (hbuild : build.successful = k.compiles c.program) :
    Achieves (k.Sound (G := G)) w (c.rememberBuild m build) fun w' b =>
      w' = w ∧ b = k.compiles c.program := by
  have hfits : k.Fits c.program { m with build := some build } :=
    { build := fun b hb => by rw [← Option.some.inj hb, hbuild], result := hm.result }
  refine (Lab.achieves_setMemo hc hfits).bind ?_
  rintro _ _ _ rfl
  exact achieves_pure ⟨rfl, hbuild⟩

theorem achieves_isCompilable (hc : seed.Enrolled w c) :
    Achieves (k.Sound (G := G)) w c.isCompilable fun w' b =>
      w' = w ∧ b = k.compiles c.program := by
  refine (Lab.achieves_memo hc).bind ?_
  rintro _ m _ ⟨rfl, hm⟩
  split
  · rename_i build hbuild
    exact achieves_pure ⟨rfl, hm.build build hbuild⟩
  · rename_i result _ hresult
    exact achieves_rememberBuild hc hm (hm.result result hresult).1
  · refine (Lab.achieves_use (k.compile_returns c.program)).bind ?_
    rintro _ _ _ ⟨rfl, rfl⟩
    exact achieves_rememberBuild hc hm rfl

private theorem achieves_testAll (hc : seed.Enrolled w c) :
    Achieves (k.Sound (G := G)) w (runTests.testAll c) fun w' r =>
      w' = w ∧ k.Reports c.program r := by
  rw [runTests.testAll, hc.suite]
  refine (Lab.achieves_use (k.runTests_returns c.program)).bind ?_
  rintro _ _ _ ⟨rfl, rfl⟩
  exact achieves_pure ⟨rfl, Coherence.reports_testRun⟩

private theorem achieves_runTests (hc : seed.Enrolled w c) {build : Option BuildOutcome}
    (hbuild : ∀ b, build = some b → b.successful = k.compiles c.program) :
    Achieves (k.Sound (G := G)) w (c.runTests build) fun w' r =>
      w' = w ∧ k.Reports c.program r := by
  unfold runTests
  split
  · rename_i b
    split
    · exact achieves_testAll hc
    · rename_i hfailed
      have hno : k.compiles c.program = false := by simpa [← hbuild b rfl] using hfailed
      refine achieves_pure ⟨rfl, hbuild b rfl, fun hyes => ?_⟩
      simp [hno] at hyes
  · exact achieves_testAll hc

private theorem achieves_evaluate (hc : seed.Enrolled w c) :
    Achieves (k.Sound (G := G)) w c.evaluate fun w' r => w' = w ∧ k.Reports c.program r := by
  refine (Lab.achieves_memo hc).bind ?_
  rintro _ m _ ⟨rfl, hm⟩
  split
  · rename_i result hresult
    exact achieves_pure ⟨rfl, hm.result result hresult⟩
  · refine (achieves_runTests hc hm.build).bind ?_
    rintro _ r _ ⟨rfl, hr⟩
    have hfits : k.Fits c.program { m with result := some r, build := some r.build } :=
      { build := fun b hb => by rw [← Option.some.inj hb]; exact hr.1
        result := fun r' hr' => by rw [← Option.some.inj hr']; exact hr }
    refine (Lab.achieves_setMemo hc hfits).bind ?_
    rintro _ _ _ rfl
    exact achieves_pure ⟨rfl, hr⟩

theorem achieves_evaluate? (hc : seed.Enrolled w c) :
    Achieves (k.Sound (G := G)) w c.evaluate? fun w' r =>
      w' = w ∧ ∃ r', r = some r' ∧ k.Reports c.program r' := by
  refine Achieves.tryCatch (Achieves.map ?_)
  refine (achieves_evaluate hc).mono fun w' r _ ⟨hw', hr⟩ => ⟨hw', r, rfl, hr⟩

theorem achieves_evaluateCompiled? (hc : seed.Enrolled w c) :
    Achieves (k.Sound (G := G)) w c.evaluateCompiled? fun w' r => w' = w ∧
      ((k.compiles c.program = true ∧ ∃ r', r = some r' ∧ r'.passing = k.passing c.program ∧
        r'.failing = k.failing c.program) ∨ (k.compiles c.program = false ∧ r = none)) := by
  refine (achieves_isCompilable hc).bind ?_
  rintro _ _ _ ⟨rfl, rfl⟩
  split
  · rename_i hyes
    refine (achieves_evaluate? hc).bind ?_
    rintro _ _ _ ⟨rfl, r, rfl, hcompiled, hreport⟩
    refine achieves_pure ⟨rfl, .inl ⟨hyes, r, ?_, hreport hyes⟩⟩
    simp [hcompiled, hyes]
  · rename_i hno
    exact achieves_pure ⟨rfl, .inr ⟨by simpa using hno, rfl⟩⟩

end Candidate

end GeneticRepair
