import GeneticRepair.Proofs.Concurrency.Thread
import GeneticRepair.Proofs.Toolchain.Cached
import GeneticRepair.Proofs.Toolchain.Contract
import GeneticRepair.Proofs.Toolchain.Simulation

/-!
# Steady toolchains

A steady toolchain never fails, and what it says of a program is always the same, also when others
use it between the steps of a test run; a test run and a compilation agree on whether the program
compiles. Caching keeps a toolchain steady.
-/

namespace GeneticRepair

def Preserves {σ : Type} (valid : σ → Prop) (s s' : σ) : Prop :=
  valid s → valid s'

instance {σ : Type} (valid : σ → Prop) : IsPreorder σ (Preserves valid) where
  refl _ h := h
  trans _ _ _ h h' hs := h' (h hs)

structure Steady (T : Type) [Toolchain T] [Stepwise T] (suite : TestSuite) where
  /-- The states in which the toolchain gives these answers, and which it does not leave. -/
  valid : T → Prop
  compiles : Program → Bool
  coverage : Program → CoverageMap
  compile_returns : ∀ p t, valid t → ∃ outcome t', Returns (Toolchain.compile p) t outcome t' ∧
    valid t' ∧ outcome.successful = compiles p
  testing_secures : ∀ p t, valid t →
    (Stepwise.testing p suite).run.Secures (Preserves valid)
      (fun r _ => ∃ result, r = .ok result ∧
        result.compiled = compiles p ∧ result.coverage = coverage p) t

variable {T : Type} [Toolchain T] [Stepwise T] {suite : TestSuite}

private theorem Contract.exists_steady {c : Contract T} (hdet : c.Deterministic)
    (hconsistent : c.Consistent) (hunfailing : c.Unfailing)
    (hwhole : ∀ p : Program,
      Stepwise.testing p suite = Thread.attempt (Toolchain.runTests (T := T) p suite)) :
    ∃ k : Steady T suite, k.valid = c.valid := by
  choose outcome houtcome using hunfailing.build
  choose result hresult using fun p => hunfailing.testRun p suite
  refine ⟨⟨c.valid, fun p => (outcome p).successful, fun p => (result p).coverage, ?_, ?_⟩, rfl⟩
  · intro p t ht
    obtain ⟨hanswer, hnext⟩ := c.compile_answers p t ht
    refine ⟨outcome p, _, ?_, hnext, rfl⟩
    rw [Returns, ← hdet.build p _ _ hanswer (houtcome p)]
    rfl
  · intro p t ht
    rw [hwhole]
    refine Thread.secures_atomic fun t' ht' => ?_
    obtain ⟨hanswer, hnext⟩ := c.runTests_answers p suite t' (ht' ht)
    refine ⟨fun _ => hnext, fun _ _ => ⟨result p, ?_, ?_, rfl⟩⟩
    · exact hdet.testRun p suite _ _ hanswer (hresult p)
    · rw [TestRun.compiled, hconsistent.build_eq p suite _ _ (houtcome p) (hresult p)]

namespace Cached

/-- What a cache of a steady toolchain may remember of builds. -/
def SteadyBuild (k : Steady T suite) (p : Program) (outcome : BuildOutcome) : Prop :=
  outcome.successful = k.compiles p

/-- What it may remember of test runs, if only one suite is run. -/
def SteadyRun (k : Steady T suite) (p : Program) (filename : String) (result : TestRun) : Prop :=
  filename = suite.filename → result.compiled = k.compiles p ∧ result.coverage = k.coverage p

/-- A cache of a steady toolchain whose memory is right. -/
structure Reliable (k : Steady T suite) (s : Cached T) : Prop where
  inner : k.valid s.inner
  remembers : Remembers (SteadyBuild k) (SteadyRun k) s

variable {k : Steady T suite} {s : Cached T} {p : Program}

theorem reliable_of_new? {inner : T} {capacity : Quantity} (hinner : k.valid inner)
    (h : new? inner capacity = some s) : Reliable k s := by
  obtain ⟨rfl, hremembers⟩ := remembers_of_new? h
  exact ⟨hinner, hremembers⟩

private theorem Reliable.setInner {inner : T} (h : Reliable k s) (hinner : k.valid inner) :
    Reliable k (setInner s inner) :=
  ⟨hinner, h.remembers.setInner inner⟩

private theorem Reliable.compile (h : Reliable k s) (p : Program) :
    ∃ outcome s', Returns (Cached.compile p) s outcome s' ∧ Reliable k s' ∧
      outcome.successful = k.compiles p := by
  rcases h.remembers.recallBuild p with ⟨outcome, s', hrecall, houtcome, hs', hremembers⟩ | hrecall
  · refine ⟨outcome, s', ?_, ⟨hs' ▸ h.inner, hremembers⟩, houtcome⟩
    exact returns_bind.mpr ⟨_, s', hrecall, returns_pure.mpr ⟨rfl, rfl⟩⟩
  · obtain ⟨outcome, inner, hrun, hinner, houtcome⟩ := k.compile_returns p s.inner h.inner
    refine ⟨outcome, _, returns_bind.mpr ⟨_, s, hrecall, run_within_bind hrun⟩, ?_, houtcome⟩
    exact ⟨hinner, (h.remembers.setInner inner).putBuild houtcome⟩

private theorem Reliable.testing (h : Reliable k s) (p : Program) :
    (Cached.testing p suite).run.Secures (Preserves (Reliable k))
      (fun r _ => ∃ result, r = .ok result ∧
        result.compiled = k.compiles p ∧ result.coverage = k.coverage p) s := by
  refine Thread.secures_attempt_bind fun s₁ hs₁ => ?_
  have h₁ := hs₁ h
  rcases h₁.remembers.recallRun p suite.filename with
    ⟨result, s', hrecall, hresult, hs', hremembers⟩ | hrecall
  · refine ⟨some result, s', hrecall, fun _ => ⟨hs' ▸ h₁.inner, hremembers⟩, ?_⟩
    exact Thread.secures_pure fun _ _ => ⟨result, rfl, hresult rfl⟩
  · refine ⟨none, s₁, hrecall, id, ?_⟩
    have hset : ∀ (s : Cached T) t, (Cached.setInner s t).inner = t := fun _ _ => rfl
    have hget : ∀ s s', Reliable k s → Preserves (Reliable k) s s' →
        Reliable k s' ∧ Preserves k.valid s.inner s'.inner := by
      intro s s' hs hrel
      exact ⟨hrel hs, fun _ => (hrel hs).inner⟩
    have hrel : ∀ s t, Reliable k s → Preserves k.valid s.inner t →
        Reliable k (Cached.setInner s t) ∧ Preserves (Reliable k) s (Cached.setInner s t) := by
      intro s t hs ht
      have hs' : Reliable k (Cached.setInner s t) := hs.setInner (ht hs.inner)
      exact ⟨hs', fun _ => hs'⟩
    have hinner := (k.testing_secures p s₁.inner h₁.inner).within h₁ hset hget hrel
    refine Thread.Secures.run_bind hinner fun result s₂ hs₂ hresult => ?_
    refine Thread.secures_attempt_bind fun s₃ hs₃ => ?_
    have h₃ := hs₃ (hs₂ h₁)
    refine ⟨(), _, returns_modify.mpr rfl, fun _ => ⟨h₃.inner, ?_⟩, ?_⟩
    · exact h₃.remembers.putRun hresult.1 fun _ => hresult
    · exact Thread.secures_pure fun _ _ => ⟨result, rfl, hresult⟩

def steady (k : Steady T suite) : Steady (Cached T) suite where
  valid := Reliable k
  compiles := k.compiles
  coverage := k.coverage
  compile_returns p _ h := h.compile p
  testing_secures p _ h := h.testing p

end Cached

theorem Simulation.exists_steady {rules : SimulationRules} (h : rules.Calm)
    (hsame : rules.run = rules.compile) (suite : TestSuite) :
    ∃ k : Steady Simulation suite, k.valid = (contract rules).valid :=
  Contract.exists_steady (deterministic_contract rules) (consistent_contract hsame)
    (unfailing_contract h) fun _ => rfl

end GeneticRepair
