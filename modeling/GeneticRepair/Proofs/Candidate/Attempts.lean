import GeneticRepair.Candidate.Stepwise
import GeneticRepair.Proofs.Candidate.Question
import GeneticRepair.Proofs.Toolchain.Steady

/-!
# Evaluations that may fail

Of a toolchain nothing may be known but how its test runs fail. Then an evaluation that others may
interrupt fails in no other way, or leaves a result in the memo of its candidate; and no result is
ever lost.
-/

namespace GeneticRepair

variable {R T G : Type} [Toolchain T]

/-- Test runs end, and fail only in such ways, also when others use the toolchain between their
steps. -/
structure Attempting (T : Type) [Toolchain T] [Stepwise T] (failure : ToolchainError → Prop) where
  /-- The states of which this holds, and which the toolchain does not leave. -/
  valid : T → Prop
  testing_secures : ∀ p suite t, valid t → (Stepwise.testing p suite).run.Secures
    (Preserves valid) (fun r _ => Meets (fun _ => True) failure r) t

/-- The tools can be used. -/
def ToolchainError.IsSystem (e : ToolchainError) : Prop :=
  ∃ fault, e = .system fault

/-- By a contract that has the tools available, test runs that nobody interrupts fail by system
faults only. -/
def Contract.Available.attempting [Stepwise T] {k : Contract T} (h : k.Available)
    (hwhole : ∀ (p : Program) suite,
      Stepwise.testing p suite = Thread.attempt (Toolchain.runTests (T := T) p suite)) :
    Attempting T ToolchainError.IsSystem where
  valid := k.valid
  testing_secures p suite t ht := by
    rw [hwhole]
    refine Thread.secures_atomic fun t' ht' => ?_
    obtain ⟨hanswer, hnext⟩ := k.runTests_answers p suite t' (ht' ht)
    refine ⟨fun _ => hnext, fun _ _ => ?_⟩
    rcases hr : ((Toolchain.runTests p suite).run.run t').1 with (reason | fault) | r
    · rw [hr] at hanswer
      exact (h.testRun p suite reason hanswer).elim
    · exact ⟨fault, rfl⟩
    · trivial

namespace Lab

omit [Toolchain T] in
def evaluated (s : Lab T G) (i : Nat) : Bool :=
  ((s.memos[i]?).getD .empty).result.isSome

omit [Toolchain T] in
theorem returns_isEvaluated (c : Candidate R) (s : Lab T G) :
    Returns c.isEvaluated s (s.evaluated c.memo) s :=
  rfl

variable [Stepwise T] {failure : ToolchainError → Prop}

/-- No result has been lost, and the toolchain is valid if it was. -/
structure Attempts (k : Attempting T failure) (s s' : Lab T G) : Prop where
  valid : k.valid s.toolchain → k.valid s'.toolchain
  size : s'.memos.size = s.memos.size
  evaluated : ∀ i, s.evaluated i = true → s'.evaluated i = true

variable {k : Attempting T failure} {s s' : Lab T G}

instance : IsPreorder (Lab T G) (Attempts k) where
  refl _ := ⟨id, rfl, fun _ h => h⟩
  trans _ _ _ h h' := ⟨fun hs => h'.valid (h.valid hs), h'.size.trans h.size,
    fun i hi => h'.evaluated i (h.evaluated i hi)⟩

private theorem attempts_setToolchain {t : T} (h : k.valid s.toolchain → k.valid t) :
    Attempts k s (s.setToolchain t) :=
  ⟨h, rfl, fun _ hi => hi⟩

private theorem attempts_update {i : Nat} {m : Memo} (hm : m.result.isSome = true) :
    Attempts k s (s.update i m s.toolchain) ∧
      (i < s.memos.size → (s.update i m s.toolchain).evaluated i = true) := by
  have hset : i < s.memos.size → (s.update i m s.toolchain).evaluated i = true := by
    intro hi
    rw [evaluated, memos_update (Array.getElem?_eq_getElem hi)]
    exact hm
  refine ⟨⟨id, size_memos_update, fun j hj => ?_⟩, hset⟩
  by_cases hij : i = j
  · subst hij
    apply hset
    by_contra hlt
    rw [evaluated, Array.getElem?_eq_none (Nat.le_of_not_lt hlt)] at hj
    cases hj
  · rwa [evaluated, memos_update_of_ne hij]

end Lab

open Lab

namespace Candidate

variable [Stepwise T] {failure : ToolchainError → Prop} {k : Attempting T failure} {c : Candidate R}
  {s : Lab T G}

/-- How an evaluation may fail, if test runs fail in such ways. -/
inductive Fails (c : Candidate R) (failure : ToolchainError → Prop) : Failure → Prop
  | evaluation {fault : SystemFault} (fails : failure (.system fault)) :
      Fails c failure (.evaluation c.id fault)
  | unavailable {reason : String} (fails : failure (.unavailable reason)) :
      Fails c failure (.toolchain (.unavailable reason))

private theorem secures_testAll_attempts (hs : k.valid s.toolchain) :
    (testing.testAll c).run.Secures (Attempts k)
      (fun r _ => Meets (fun _ => True) (c.Fails failure) r) s := by
  have hset : ∀ (s : Lab T G) t, (s.setToolchain t).toolchain = t := fun _ _ => rfl
  have hget : ∀ s s' : Lab T G, k.valid s.toolchain → Attempts k s s' →
      k.valid s'.toolchain ∧ Preserves k.valid s.toolchain s'.toolchain := by
    intro s s' hs hrel
    exact ⟨hrel.valid hs, hrel.valid⟩
  have hrel : ∀ (s : Lab T G) t, k.valid s.toolchain → Preserves k.valid s.toolchain t →
      k.valid (s.setToolchain t).toolchain ∧ Attempts k s (s.setToolchain t) := by
    intro s t hs ht
    exact ⟨ht hs, attempts_setToolchain ht⟩
  have hthread :=
    (k.testing_secures c.program c.suite s.toolchain hs).within hs hset hget hrel
  have huse : (Lab.useInSteps (Stepwise.testing c.program c.suite) :
      ExceptT Failure (Thread (Lab T G)) _).run.Secures (Attempts k)
      (fun r _ => ∃ a, r = .ok a ∧ Meets (fun _ => True) failure a) s := by
    refine Thread.Secures.bind hthread fun r s' _ hr => ?_
    intro s'' hs''
    exact ⟨r, rfl, hr s'' hs''⟩
  refine huse.run_bind ?_
  rintro ((reason | fault) | result) s' - hr
  · exact fun _ _ => Fails.unavailable hr
  · exact fun _ _ => Fails.evaluation hr
  · exact Thread.secures_pure fun _ _ => trivial

private theorem secures_testing_attempts (hs : k.valid s.toolchain) (build : Option BuildOutcome) :
    (c.testing build).run.Secures (Attempts k)
      (fun r _ => Meets (fun _ => True) (c.Fails failure) r) s := by
  unfold testing
  split
  · split
    · exact secures_testAll_attempts hs
    · exact Thread.secures_pure fun _ _ => trivial
  · exact secures_testAll_attempts hs

/-- An evaluation leaves a result, or fails in one of these ways, whatever other evaluations do
meanwhile. -/
theorem secures_evaluation_attempts (hs : k.valid s.toolchain) :
    c.evaluation.run.Secures (Attempts k)
      (fun r s' => Meets (fun _ => c.memo < s'.memos.size → s'.evaluated c.memo = true)
        (c.Fails failure) r) s := by
  refine Thread.secures_attempt_bind fun s₁ hs₁ => ?_
  refine ⟨_, s₁, returns_get_bind.mpr (returns_pure.mpr ⟨rfl, rfl⟩),
    refl_of (Attempts k) s₁, ?_⟩
  cases hresult : ((s₁.memos[c.memo]?).getD .empty).result with
  | some r =>
    have hevaluated : s₁.evaluated c.memo = true := by rw [evaluated, hresult, Option.isSome_some]
    exact Thread.secures_pure fun s₂ hs₂ _ => hs₂.evaluated c.memo hevaluated
  | none =>
    refine (secures_testing_attempts (hs₁.valid hs) _).meets_bind ?_ fun _ _ he => he
    intro r s₂ _ _
    refine Thread.secures_attempt_bind fun s₃ _ => ?_
    obtain ⟨hrel, hset⟩ := attempts_update (k := k) (s := s₃) (i := c.memo)
      (m := { (s₁.memos[c.memo]?).getD .empty with result := some r, build := some r.build }) rfl
    refine ⟨(), _, Lab.returns_setMemo, hrel, ?_⟩
    refine Thread.secures_pure fun s₄ hs₄ hlt => hs₄.evaluated c.memo (hset ?_)
    rwa [hs₄.size, Lab.size_memos_update] at hlt

theorem secures_evaluation?_attempts (hs : k.valid s.toolchain) :
    c.evaluation?.run.Secures (Attempts k)
      (fun r s' => Meets
        (fun result => result ≠ none → c.memo < s'.memos.size → s'.evaluated c.memo = true)
        (fun e => ∃ reason, e = .toolchain (.unavailable reason) ∧
          failure (.unavailable reason)) r) s := by
  have hsome : (do return some (← c.evaluation) : ExceptT Failure (Thread (Lab T G)) _).run.Secures
      (Attempts k)
      (fun r s' => Meets (fun _ => c.memo < s'.memos.size → s'.evaluated c.memo = true)
        (c.Fails failure) r) s := by
    refine Thread.Secures.bind (secures_evaluation_attempts hs) fun r s' _ hr => ?_
    cases r with
    | ok result => exact hr
    | error e => exact hr
  refine Thread.Secures.bind hsome fun r s' _ hr => ?_
  cases r with
  | ok result => exact fun s'' hs'' _ => hr s'' hs''
  | error e =>
    cases hr s' (refl_of (Attempts k) s') with
    | evaluation fails => exact fun _ _ hnone => absurd rfl hnone
    | unavailable fails => exact fun _ _ => ⟨_, rfl, fails⟩

end Candidate

end GeneticRepair
