import GeneticRepair.Candidate.Stepwise
import GeneticRepair.Proofs.Candidate.Evaluation
import GeneticRepair.Proofs.Mirror
import GeneticRepair.Proofs.Toolchain.Steady

/-!
# Settling memos

While candidates are evaluated, the memos of those that are due are settled, each by what a steady
toolchain says of its program, and everything else stays as it is. So it does not matter who settles
which memo first, and several evaluations come to the same in whatever order they take their steps.

Of what a memo records, a search can tell whether the program compiled, the coverage of its tests
and their spectra. Laboratories with a steady toolchain are alike if their memos tell the same, and
they have the same baseline and the same source of randomness; the toolchains may be in different
states.
-/

namespace GeneticRepair

/-! ## What memos tell -/

def TestRun.gist (r : TestRun) : Bool × CoverageMap :=
  (r.compiled, r.coverage)

theorem TestRun.passing_eq {r r' : TestRun} (h : r'.gist = r.gist) : r'.passing = r.passing :=
  congrArg (fun g => g.2.passing.names) h

theorem TestRun.failing_eq {r r' : TestRun} (h : r'.gist = r.gist) : r'.failing = r.failing :=
  congrArg (fun g => g.2.failing.names) h

structure Gist where
  compiles : Option Bool
  result : Option (Bool × CoverageMap)
  spectra : Option Spectra

def Memo.gist (m : Memo) : Gist :=
  ⟨m.build.map BuildOutcome.successful, m.result.map TestRun.gist, m.spectra⟩

namespace Lab

variable {T G : Type}

/-- What the memo of a number tells, if there is one. -/
def gist? (s : Lab T G) (i : Nat) : Option Gist :=
  (s.memos[i]?).map Memo.gist

@[simp] theorem gist?_setMemos {s : Lab T G} {i j : Nat} {m : Memo} :
    ({ s with memos := s.memos.setIfInBounds i m } : Lab T G).gist? j =
      if i = j then (s.gist? j).map fun _ => m.gist else s.gist? j := by
  unfold gist?
  by_cases hij : i = j
  · subst hij
    rw [if_pos rfl, Array.getElem?_setIfInBounds_self]
    by_cases hlt : i < s.memos.size <;> simp [hlt]
  · rw [if_neg hij, Array.getElem?_setIfInBounds_ne hij]

private theorem gist?_of_memo {s : Lab T G} {i : Nat} {g : Gist} (h : s.gist? i = some g) :
    ∃ m, s.memos[i]? = some m ∧ m.gist = g :=
  Option.map_eq_some_iff.mp h

end Lab

variable {R T G : Type} [Toolchain T] [Stepwise T] {suite : TestSuite}

/-- Both laboratories have the memos that the ledger lists, and tell the same. -/
structure Alike (k : Steady T suite) (w : Ledger) (s s' : Lab T G) : Prop where
  valid : k.valid s.toolchain
  valid' : k.valid s'.toolchain
  size : s.memos.size = w.owners.length
  size' : s'.memos.size = w.owners.length
  gist?_eq : ∀ i, s'.gist? i = s.gist? i
  baseline_eq : s'.baseline = s.baseline
  random_eq : s'.random = s.random

/-! ## Memos that are due -/

variable {k : Steady T suite}

namespace Steady

/-- What a memo tells when its program has been evaluated. A build that is known to have failed is
not repeated. -/
def settle (k : Steady T suite) (p : Program) (g : Gist) : Gist :=
  match g.result, g.compiles with
  | some _, _ => g
  | none, some false => { g with result := some (false, .empty) }
  | none, _ =>
    { g with compiles := some (k.compiles p), result := some (k.compiles p, k.coverage p) }

variable {p : Program} {g : Gist}

private theorem settle_of_result {r : Bool × CoverageMap} (h : g.result = some r) :
    k.settle p g = g := by
  simp only [settle, h]

private theorem settle_of_failed (hresult : g.result = none) (hfailed : g.compiles = some false) :
    k.settle p g = ⟨some false, some (false, .empty), g.spectra⟩ := by
  simp only [settle, hresult, hfailed]

private theorem settle_of_not_failed (hresult : g.result = none)
    (hbuild : g.compiles ≠ some false) :
    k.settle p g = ⟨some (k.compiles p), some (k.compiles p, k.coverage p), g.spectra⟩ := by
  simp only [settle, hresult]

private theorem exists_result_settle : ∃ r, (k.settle p g).result = some r := by
  cases hresult : g.result with
  | some r => exact ⟨r, by rw [settle_of_result hresult, hresult]⟩
  | none =>
    by_cases hfailed : g.compiles = some false
    · exact ⟨_, by rw [settle_of_failed hresult hfailed]⟩
    · exact ⟨_, by rw [settle_of_not_failed hresult hfailed]⟩

private theorem settle_settle : k.settle p (k.settle p g) = k.settle p g := by
  obtain ⟨r, hr⟩ := exists_result_settle (k := k) (p := p) (g := g)
  exact settle_of_result hr

end Steady

/-- The changes that evaluations of these programs in these memos make. -/
structure Settles (k : Steady T suite) (due : Nat → Option Program) (s s' : Lab T G) : Prop where
  valid : k.valid s.toolchain → k.valid s'.toolchain
  size : s'.memos.size = s.memos.size
  baseline_eq : s'.baseline = s.baseline
  random_eq : s'.random = s.random
  gist?_eq : ∀ i, s'.gist? i = s.gist? i ∨
    ∃ p, due i = some p ∧ s'.gist? i = (s.gist? i).map (k.settle p)

instance (due : Nat → Option Program) : IsPreorder (Lab T G) (Settles k due) where
  refl _ := ⟨id, rfl, rfl, rfl, fun _ => .inl rfl⟩
  trans s₁ s₂ s₃ h h' := by
    refine ⟨fun hs => h'.valid (h.valid hs), h'.size.trans h.size,
      h'.baseline_eq.trans h.baseline_eq, h'.random_eq.trans h.random_eq, fun i => ?_⟩
    rcases h.gist?_eq i with heq | ⟨p, hp, heq⟩
    · rw [← heq]
      exact h'.gist?_eq i
    · refine .inr ⟨p, hp, ?_⟩
      rcases h'.gist?_eq i with heq' | ⟨q, hq, heq'⟩
      · rw [heq', heq]
      · obtain rfl : p = q := Option.some.inj (hp.symm.trans hq)
        rw [heq', heq, Option.map_map]
        congr 1
        funext g
        exact Steady.settle_settle

variable {due : Nat → Option Program} {s₀ s s' : Lab T G} {c : Candidate R} {g₀ : Gist}

private theorem Settles.gist?_cases (h : Settles k due s₀ s) (hdue : due c.memo = some c.program)
    (hmemo : s₀.gist? c.memo = some g₀) :
    s.gist? c.memo = some g₀ ∨ s.gist? c.memo = some (k.settle c.program g₀) := by
  rcases h.gist?_eq c.memo with heq | ⟨p, hp, heq⟩
  · exact .inl (heq.trans hmemo)
  · obtain rfl : c.program = p := Option.some.inj (hdue.symm.trans hp)
    rw [hmemo] at heq
    exact .inr heq

private theorem settles_setToolchain {toolchain : T} (h : k.valid s.toolchain → k.valid toolchain) :
    Settles k due s (s.setToolchain toolchain) :=
  ⟨h, rfl, rfl, rfl, fun _ => .inl rfl⟩

/-- The memo is settled, and holds the result that was returned. -/
structure Settled (k : Steady T suite) (g₀ : Gist) (c : Candidate R) (result : TestRun)
    (s : Lab T G) : Prop where
  gist?_eq : s.gist? c.memo = some (k.settle c.program g₀)
  result_eq : (k.settle c.program g₀).result = some result.gist

private theorem Settles.settled (h : Settles k due s₀ s) (hdue : due c.memo = some c.program)
    (hmemo : s₀.gist? c.memo = some g₀) {g : Gist} {result : TestRun}
    (hg : s.gist? c.memo = some g) (hresult : g.result = some result.gist) :
    Settled k g₀ c result s := by
  have hsettled : k.settle c.program g₀ = g := by
    rcases h.gist?_cases hdue hmemo with heq | heq
    · obtain rfl := Option.some.inj (hg.symm.trans heq)
      exact Steady.settle_of_result hresult
    · exact Option.some.inj (heq.symm.trans hg)
  refine ⟨?_, ?_⟩
  · rw [hsettled, hg]
  · rw [hsettled, hresult]

private theorem Settled.of_settles {result : TestRun} (h : Settled k g₀ c result s)
    (hs : Settles k due s s') (hdue : due c.memo = some c.program) :
    Settled k g₀ c result s' := by
  refine ⟨?_, h.result_eq⟩
  rcases hs.gist?_cases hdue h.gist?_eq with heq | heq
  · exact heq
  · rw [heq, Steady.settle_settle]

/-! ## Evaluations in steps -/

namespace Candidate

/-- A test run says what the memo will tell once it is settled. -/
def Tells (k : Steady T suite) (p : Program) (g : Gist) (result : TestRun) : Prop :=
  k.settle p g = ⟨some result.compiled, some result.gist, g.spectra⟩

private theorem settles_setMemo {m : Memo} {result : TestRun} (hdue : due c.memo = some c.program)
    (htells : Tells k c.program g₀ result) (hspectra : m.spectra = g₀.spectra)
    (hs : Settles k due s₀ s) (hmemo : s₀.gist? c.memo = some g₀)
    (hs' : s' = { s with
      memos := s.memos.setIfInBounds c.memo
        ({ m with result := some result, build := some result.build }) }) :
    Settles k due s s' ∧ Settled k g₀ c result s' := by
  subst hs'
  have hgist : ({ m with result := some result, build := some result.build } : Memo).gist =
      k.settle c.program g₀ := by
    rw [htells, ← hspectra]
    rfl
  have hbefore := hs.gist?_cases hdue hmemo
  have hafter : (s.gist? c.memo).map (fun _ => k.settle c.program g₀) =
      some (k.settle c.program g₀) := by
    rcases hbefore with h | h <;> rw [h] <;> rfl
  refine ⟨⟨fun h => h, by simp, rfl, rfl, fun i => ?_⟩, ?_, by rw [htells]⟩
  · rw [Lab.gist?_setMemos, hgist]
    by_cases hi : c.memo = i
    · subst hi
      refine .inr ⟨c.program, hdue, ?_⟩
      rw [if_pos rfl, hafter]
      rcases hbefore with h | h
      · rw [h, Option.map_some]
      · rw [h, Option.map_some, Steady.settle_settle]
    · rw [if_neg hi]
      exact .inl rfl
  · rw [Lab.gist?_setMemos, hgist, if_pos rfl, hafter]

private theorem secures_testAll (hsuite : c.suite = suite) (hs : k.valid s.toolchain) :
    (testing.testAll c).run.Secures (Settles k due)
      (fun r _ => ∃ result, r = .ok result ∧
        result.gist = (k.compiles c.program, k.coverage c.program)) s := by
  subst hsuite
  have hset : ∀ (s : Lab T G) t, (s.setToolchain t).toolchain = t := fun _ _ => rfl
  have hget : ∀ s s' : Lab T G, k.valid s.toolchain → Settles k due s s' →
      k.valid s'.toolchain ∧ Preserves k.valid s.toolchain s'.toolchain := by
    intro s s' hs hrel
    exact ⟨hrel.valid hs, hrel.valid⟩
  have hrel : ∀ (s : Lab T G) t, k.valid s.toolchain → Preserves k.valid s.toolchain t →
      k.valid (s.setToolchain t).toolchain ∧ Settles k due s (s.setToolchain t) := by
    intro s t hs ht
    exact ⟨ht hs, settles_setToolchain ht⟩
  have hthread := (k.testing_secures c.program s.toolchain hs).within hs hset hget hrel
  have huse : (Lab.useInSteps (Stepwise.testing c.program c.suite) :
      ExceptT Failure (Thread (Lab T G)) _).run.Secures (Settles k due)
      (fun r _ => ∃ a, r = .ok a ∧ ∃ result, a = .ok result ∧
        result.compiled = k.compiles c.program ∧ result.coverage = k.coverage c.program) s := by
    refine Thread.Secures.bind hthread fun r s' _ hr => ?_
    intro s'' hs''
    exact ⟨r, rfl, hr s'' hs''⟩
  refine huse.run_bind ?_
  rintro _ s' - ⟨result, rfl, hcompiled, hcoverage⟩
  refine Thread.secures_pure fun _ _ => ⟨result, rfl, ?_⟩
  rw [TestRun.gist, hcompiled, hcoverage]

private theorem secures_testing (hsuite : c.suite = suite) (hs : k.valid s.toolchain) {m : Memo}
    (hresult : m.result = none) :
    (c.testing m.build).run.Secures (Settles k due)
      (fun r _ => ∃ result, r = .ok result ∧ Tells k c.program m.gist result) s := by
  have hgist : m.gist.result = none := by simp [Memo.gist, hresult]
  have hall : m.gist.compiles ≠ some false → (testing.testAll c).run.Secures (Settles k due)
      (fun r _ => ∃ result, r = .ok result ∧ Tells k c.program m.gist result) s := by
    intro hbuild
    refine (secures_testAll hsuite hs).mono ?_
    rintro _ _ ⟨result, rfl, htold⟩
    refine ⟨result, rfl, ?_⟩
    have hcompiled : result.compiled = k.compiles c.program := congrArg Prod.fst htold
    rw [Tells, Steady.settle_of_not_failed hgist hbuild, htold, hcompiled]
  cases hbuild : m.build with
  | none => exact hall (by simp [Memo.gist, hbuild])
  | some build =>
    by_cases hok : build.successful = true
    · simp only [testing, hok, if_true]
      exact hall (by simp [Memo.gist, hbuild, hok])
    · have hfailed : m.gist.compiles = some false := by simpa [Memo.gist, hbuild] using hok
      simp only [testing, hok, Bool.false_eq_true, if_false]
      refine Thread.secures_pure fun _ _ => ⟨_, rfl, ?_⟩
      rw [Tells, Steady.settle_of_failed hgist hfailed]
      simp [TestRun.gist, TestRun.compiled, hok]

/-- An evaluation settles its memo, whatever other evaluations do meanwhile. -/
theorem secures_evaluation (hsuite : c.suite = suite) (hdue : due c.memo = some c.program)
    (hvalid : k.valid s.toolchain) (hmemo : s.gist? c.memo = some g₀) :
    c.evaluation.run.Secures (Settles k due)
      (fun r s' => ∃ result, r = .ok result ∧ Settled k g₀ c result s') s := by
  refine Thread.secures_attempt_bind fun s₁ hs₁ => ?_
  obtain ⟨g, hg⟩ : ∃ g, s₁.gist? c.memo = some g := by
    rcases hs₁.gist?_cases hdue hmemo with h | h
    · exact ⟨_, h⟩
    · exact ⟨_, h⟩
  obtain ⟨m, hm, rfl⟩ := Lab.gist?_of_memo hg
  refine ⟨m, s₁, ?_, refl_of (Settles k due) s₁, ?_⟩
  · rw [Lab.memo, returns_get_bind, hm]
    exact returns_pure.mpr ⟨rfl, rfl⟩
  · cases hresult : m.result with
    | some result =>
      refine Thread.secures_pure fun s₂ hs₂ => ⟨result, rfl, ?_⟩
      have hgist : m.gist.result = some result.gist := by simp [Memo.gist, hresult]
      exact (hs₁.settled hdue hmemo hg hgist).of_settles hs₂ hdue
    | none =>
      have hstart : m.gist = g₀ := by
        rcases hs₁.gist?_cases hdue hmemo with h | h
        · exact Option.some.inj (hg.symm.trans h)
        · obtain ⟨r, hr⟩ := Steady.exists_result_settle (k := k) (p := c.program) (g := g₀)
          rw [← Option.some.inj (hg.symm.trans h)] at hr
          simp [Memo.gist, hresult] at hr
      refine (secures_testing hsuite (hs₁.valid hvalid) hresult).run_bind ?_
      intro result s₂ hs₂ htells
      rw [hstart] at htells
      refine Thread.secures_attempt_bind fun s₃ hs₃ => ?_
      have hs := trans_of (Settles k due) hs₁ (trans_of (Settles k due) hs₂ hs₃)
      have hspectra : m.spectra = g₀.spectra := by rw [← hstart, Memo.gist]
      have hwrite := settles_setMemo hdue htells hspectra hs hmemo rfl
      refine ⟨(), _, returns_modify.mpr rfl, hwrite.1, ?_⟩
      exact Thread.secures_pure fun s₅ hs₅ => ⟨result, rfl, hwrite.2.of_settles hs₅ hdue⟩

theorem secures_evaluation? (hsuite : c.suite = suite) (hdue : due c.memo = some c.program)
    (hvalid : k.valid s.toolchain) (hmemo : s.gist? c.memo = some g₀) :
    c.evaluation?.run.Secures (Settles k due)
      (fun r s' => ∃ result, r = .ok (some result) ∧ Settled k g₀ c result s') s := by
  have heval := secures_evaluation hsuite hdue hvalid hmemo
  have hsome : (do return some (← c.evaluation) : ExceptT Failure (Thread (Lab T G)) _).run.Secures
      (Settles k due)
      (fun r s' => ∃ result, r = .ok (some result) ∧ Settled k g₀ c result s') s := by
    refine Thread.Secures.bind heval fun r s' _ hr => ?_
    obtain ⟨result, rfl, -⟩ := hr s' (refl_of (Settles k due) s')
    intro s'' hs''
    obtain ⟨result', heq, hsettled⟩ := hr s'' hs''
    cases heq
    exact ⟨result, rfl, hsettled⟩
  refine Thread.Secures.bind hsome fun r s' _ hr => ?_
  obtain ⟨result, rfl, -⟩ := hr s' (refl_of (Settles k due) s')
  exact hr

end Candidate

/-! ## Several candidates -/

def dueIn (cs : List (Candidate R)) (i : Nat) : Option Program :=
  (cs.find? (·.memo == i)).map Candidate.program

/-- Candidates that share a memo have the same program. -/
def Separate (cs : List (Candidate R)) : Prop :=
  ∀ c ∈ cs, ∀ d ∈ cs, c.memo = d.memo → c.program = d.program

variable {cs : List (Candidate R)}

theorem dueIn_memo (h : Separate cs) (hc : c ∈ cs) : dueIn cs c.memo = some c.program := by
  unfold dueIn
  cases hfind : cs.find? (·.memo == c.memo) with
  | none =>
    have hno := List.find?_eq_none.mp hfind c hc
    simp at hno
  | some d =>
    have hmemo : d.memo = c.memo := by simpa using List.find?_some hfind
    rw [Option.map_some, h d (List.mem_of_find?_eq_some hfind) c hc hmemo]

private theorem exists_of_dueIn {i : Nat} {p : Program} (h : dueIn cs i = some p) :
    ∃ c ∈ cs, c.memo = i ∧ c.program = p := by
  obtain ⟨c, hfind, hp⟩ := Option.map_eq_some_iff.mp h
  exact ⟨c, List.mem_of_find?_eq_some hfind, by simpa using List.find?_some hfind, hp⟩

/-- The memos of the candidates have been settled, and nothing else has changed. -/
structure AllSettled (k : Steady T suite) (cs : List (Candidate R)) (s s' : Lab T G) : Prop where
  settles : Settles k (dueIn cs) s s'
  settled : ∀ c ∈ cs, ∃ g, s.gist? c.memo = some g ∧ s'.gist? c.memo = some (k.settle c.program g)

/-- Then it is known what every memo tells. -/
theorem AllSettled.gist?_eq {s' : Lab T G} (h : AllSettled k cs s s') (i : Nat) :
    s'.gist? i = (s.gist? i).map ((dueIn cs i).elim id k.settle) := by
  cases hdue : dueIn cs i with
  | none =>
    rcases h.settles.gist?_eq i with heq | ⟨p, hp, -⟩
    · rw [heq]
      cases s.gist? i <;> rfl
    · exact absurd (hdue.symm.trans hp) (by simp)
  | some p =>
    obtain ⟨c, hc, rfl, rfl⟩ := exists_of_dueIn hdue
    obtain ⟨g, hg, hg'⟩ := h.settled c hc
    rw [hg, hg']
    rfl

/-- Laboratories that were alike are alike after the same candidates have been evaluated. -/
theorem AllSettled.alike {w : Ledger} {s₁ s₂ t₁ t₂ : Lab T G} (h : Alike k w s₁ s₂)
    (h₁ : AllSettled k cs s₁ t₁) (h₂ : AllSettled k cs s₂ t₂) : Alike k w t₁ t₂ where
  valid := h₁.settles.valid h.valid
  valid' := h₂.settles.valid h.valid'
  size := h₁.settles.size.trans h.size
  size' := h₂.settles.size.trans h.size'
  gist?_eq i := by rw [h₁.gist?_eq, h₂.gist?_eq, h.gist?_eq]
  baseline_eq := by rw [h₁.settles.baseline_eq, h₂.settles.baseline_eq, h.baseline_eq]
  random_eq := by rw [h₁.settles.random_eq, h₂.settles.random_eq, h.random_eq]

namespace Candidate

/-- An evaluation that is not interrupted returns the result that the memo holds then. -/
theorem returns_evaluate? (hsuite : c.suite = suite) (hvalid : k.valid s.toolchain)
    (hmemo : s.gist? c.memo = some g₀) :
    ∃ result s', Returns c.evaluate? s (some result) s' ∧ AllSettled k [c] s s' ∧
      (k.settle c.program g₀).result = some result.gist := by
  have hdue : dueIn [c] c.memo = some c.program := by simp [dueIn]
  obtain ⟨hsettles, hpost⟩ := (secures_evaluation? hsuite hdue hvalid hmemo).finish
  obtain ⟨result, hresult, hsettled⟩ := hpost _ (refl_of (Settles k (dueIn [c])) _)
  refine ⟨result, _, ?_, ⟨hsettles, ?_⟩, hsettled.result_eq⟩
  · rw [← complete_evaluation?, Returns, ← hresult]
    rfl
  · intro d hd
    obtain rfl := List.mem_singleton.mp hd
    exact ⟨g₀, hmemo, hsettled.gist?_eq⟩

end Candidate

end GeneticRepair
