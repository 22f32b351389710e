import GeneticRepair.Proofs.Candidate.Evaluation
import GeneticRepair.Proofs.Random
import GeneticRepair.Proofs.Toolchain.Contract
import GeneticRepair.Search.Genetic
import GeneticRepair.Toolchain.Simulation
import Mathlib.Data.String.Basic

/-!
# Coherence of simulated toolchains

A simulated toolchain that neither faults nor is unavailable, and builds for a test run just as it
compiles, is coherent for every suite.
-/

namespace GeneticRepair

/-- No text makes an operation fail, and the same texts break both builds. -/
structure SimulationRules.Calm (rules : SimulationRules) : Prop where
  compile_faults : rules.compile.faults = []
  run_faults : rules.run.faults = []
  unavailable : rules.unavailable = []
  broken : rules.run.broken = rules.compile.broken

namespace Simulation

variable {rules : SimulationRules}

def outcome (broken : List String) (p : Program) : BuildOutcome :=
  match broken.find? fun s => Text.occursIn s.toList (Text.joinLines p.lines).toList with
  | some s => ⟨false, .float 0.0, "broken: " ++ s⟩
  | none => ⟨true, .float 0.0, ""⟩

private theorem build_eq {own : BuildRules} (hfaults : own.faults = [])
    (hunavailable : rules.unavailable = []) (p : Program) :
    build rules own p = .ok (outcome own.broken p) := by
  simp only [build, outcome, hfaults, hunavailable, occursAny, List.any_nil, Bool.false_eq_true,
    if_false]
  cases own.broken.find? fun s => Text.occursIn s.toList (Text.joinLines p.lines).toList with
  | none => rfl
  | some s => rfl

def outcomes (rules : SimulationRules) (suite : TestSuite) (p : Program) : TestRun :=
  let build := outcome rules.compile.broken p
  ⟨build, if build.successful then run rules p suite else .empty⟩

theorem names_run (p : Program) (suite : TestSuite) :
    (run rules p suite).names.Nodup ∧
      ∀ name, name ∈ (run rules p suite).names ↔ name ∈ suite.names := by
  refine ⟨CoverageMap.nodup_names_ofList _, fun name => ?_⟩
  rw [run, CoverageMap.mem_names_ofList, List.map_map]
  simp [Function.comp_def, TestCoverage.make]

def coherence (h : rules.Calm) (suite : TestSuite) : Coherence Simulation suite where
  valid t := t.rules = rules
  build := outcome rules.compile.broken
  testRun := outcomes rules suite
  compile_returns := by
    rintro p t rfl
    exact ⟨{ t with compiles := t.compiles + 1 }, rfl, returns_bind.mpr
      ⟨t, _, returns_modifyGet.mpr rfl,
        returns_liftExcept.mpr ⟨build_eq h.compile_faults h.unavailable p, rfl⟩⟩⟩
  runTests_returns := by
    rintro p t rfl
    have hbuild := build_eq h.run_faults h.unavailable p
    rw [h.broken] at hbuild
    exact ⟨{ t with runs := t.runs + 1 }, rfl, returns_bind.mpr
      ⟨t, _, returns_modifyGet.mpr rfl, returns_bind.mpr
        ⟨_, _, returns_liftExcept.mpr ⟨hbuild, rfl⟩, returns_pure.mpr ⟨rfl, rfl⟩⟩⟩⟩
  compiled_testRun _ := rfl
  nodup_names p hp := by
    replace hp : (outcome rules.compile.broken p).successful = true := hp
    simp only [outcomes, hp, if_true]
    exact (names_run p suite).1
  mem_names p hp := by
    replace hp : (outcome rules.compile.broken p).successful = true := hp
    simp only [outcomes, hp, if_true]
    exact (names_run p suite).2

private theorem ready_new {R G : Type} {identity : String} {lines : List String} {suite : TestSuite}
    {strategies : Strategies R} {random : G} {seed : Candidate R} {lab : Lab Simulation G}
    (hcalm : rules.Calm)
    (h : Returns (Candidate.new identity lines suite strategies) (.new (new rules) random)
      seed lab) :
    (coherence hcalm seed.suite).Ready lab := by
  have hvalid : (coherence hcalm seed.suite).valid (Lab.new (new rules) random).toolchain := rfl
  exact Coherence.ready_new hvalid rfl h

/-! ## What a simulation may answer -/

def tested (rules : SimulationRules) (p : Program) (suite : TestSuite) :
    Except ToolchainError TestRun :=
  (build rules rules.run p).map fun outcome =>
    ⟨outcome, if outcome.successful then run rules p suite else .empty⟩

private theorem run_compile (p : Program) (s : Simulation) :
    (Toolchain.compile p).run.run s =
      (build s.rules s.rules.compile p, { s with compiles := s.compiles + 1 }) := by
  show (liftExcept (build s.rules s.rules.compile p) : ExceptT _ (StateM Simulation) _).run.run
    { s with compiles := s.compiles + 1 } = _
  cases build s.rules s.rules.compile p <;> rfl

theorem run_runTests (p : Program) (suite : TestSuite) (s : Simulation) :
    (Toolchain.runTests p suite).run.run s =
      (tested s.rules p suite, { s with runs := s.runs + 1 }) := by
  show ((liftExcept (build s.rules s.rules.run p) : ExceptT _ (StateM Simulation) _) >>=
    fun outcome => pure (TestRun.mk outcome
      (if outcome.successful then run s.rules p suite else .empty))).run.run
      { s with runs := s.runs + 1 } = _
  rw [tested]
  cases build s.rules s.rules.run p <;> rfl

/-- A simulation gives the answers of its rules in every state. -/
def contract (rules : SimulationRules) : Contract Simulation where
  valid s := s.rules = rules
  build p r := r = build rules rules.compile p
  testRun p suite r := r = tested rules p suite
  compile_answers := by
    rintro p s rfl
    rw [run_compile]
    exact ⟨rfl, rfl⟩
  runTests_answers := by
    rintro p suite s rfl
    rw [run_runTests]
    exact ⟨rfl, rfl⟩

theorem deterministic_contract (rules : SimulationRules) : (contract rules).Deterministic :=
  ⟨fun _ _ _ h h' => h.trans h'.symm, fun _ _ _ _ h h' => h.trans h'.symm⟩

theorem unfailing_contract {rules : SimulationRules} (h : rules.Calm) :
    (contract rules).Unfailing where
  build p := ⟨_, (build_eq h.compile_faults h.unavailable p).symm⟩
  testRun p suite := by
    have htested : tested rules p suite = .ok (outcomes rules suite p) := by
      rw [tested, build_eq h.run_faults h.unavailable, h.broken]
      rfl
    exact ⟨_, htested.symm⟩

theorem available_contract {rules : SimulationRules} (h : rules.unavailable = []) :
    (contract rules).Available := by
  have hbuild : ∀ own p reason, Except.error (.unavailable reason) ≠ build rules own p := by
    intro own p reason hreason
    simp only [build, h, occursAny, List.any_nil, Bool.false_eq_true, if_false] at hreason
    split at hreason
    · cases hreason
    · split at hreason <;> cases hreason
  refine ⟨fun p reason => hbuild rules.compile p reason, fun p suite reason hreason => ?_⟩
  have hrun : Except.error (.unavailable reason) = tested rules p suite := hreason
  rw [tested] at hrun
  cases hown : build rules rules.run p with
  | ok outcome =>
    rw [hown] at hrun
    cases hrun
  | error e =>
    rw [hown] at hrun
    cases hrun
    exact hbuild rules.run p reason hown.symm

theorem consistent_contract {rules : SimulationRules} (h : rules.run = rules.compile) :
    (contract rules).Consistent := by
  have htested : ∀ p suite, tested rules p suite = (build rules rules.compile p).map fun outcome =>
      ⟨outcome, if outcome.successful then run rules p suite else .empty⟩ := by
    intro p suite
    rw [tested, h]
  constructor
  · intro p suite outcome result hbuild hrun
    replace hrun := hrun.trans (htested p suite)
    rw [← show Except.ok outcome = build rules rules.compile p from hbuild] at hrun
    cases hrun
    rfl
  · intro p suite
    show (∃ e, Except.error e = build rules rules.compile p) ↔
      ∃ e, Except.error e = tested rules p suite
    rw [htested]
    cases build rules rules.compile p <;> simp [Except.map]

theorem names_tested {rules : SimulationRules} {p : Program} {suite : TestSuite} {result : TestRun}
    (h : .ok result = tested rules p suite) (hcompiled : result.compiled) (name : String) :
    name ∈ result.coverage.names ↔ name ∈ suite.names := by
  rw [tested] at h
  cases hbuild : build rules rules.run p with
  | ok outcome =>
    rw [hbuild, Except.map] at h
    cases h
    have hsuccessful : outcome.successful = true := hcompiled
    rw [hsuccessful, if_pos rfl]
    exact (names_run p suite).2 name
  | error e =>
    rw [hbuild, Except.map] at h
    cases h

end Simulation

/-! ## A program that adds wrongly -/

namespace WrongSum

def rules : SimulationRules :=
  ⟨⟨[], []⟩, ⟨[], []⟩, [], [("test_sum.py::test_add", ⟨["a + b"], [], [], []⟩)]⟩

def seed : Candidate Quantity :=
  ⟨"sum", ["def add(a, b):", "    return a - b"],
    ⟨"test_sum.py", [], [⟨"test_sum.py", none, "test_add"⟩]⟩,
    ⟨.classic true, .raw, .ochiai, ⟨.ofInt 1, .ofInt 10⟩⟩, 0⟩

end WrongSum

/-! ## A program with two faults -/

namespace TwoFaults

/-- Each of the tests forbids one of two statements. -/
def rules : SimulationRules :=
  ⟨⟨[], []⟩, ⟨[], []⟩, [],
    [("test_quiet.py::test_log", ⟨[], ["log"], [], ["log"]⟩),
      ("test_quiet.py::test_dump", ⟨[], ["dump"], [], ["dump"]⟩)]⟩

private theorem calm : rules.Calm :=
  ⟨rfl, rfl, rfl, rfl⟩

def seed : Candidate Quantity :=
  ⟨"quiet", ["log()", "x = 2", "dump()"],
    ⟨"test_quiet.py", [],
      [⟨"test_quiet.py", none, "test_log"⟩, ⟨"test_quiet.py", none, "test_dump"⟩]⟩,
    ⟨.classic true, .raw, .ochiai, ⟨.ofInt 1, .ofInt 10⟩⟩, 0⟩

/-- So many generations of three candidates may follow the first one. -/
def settings (limit : Int) : SearchSettings Quantity :=
  ⟨.ofInt 3, .ofInt limit, .ofInt 1, .ofInt 5, .ofInt 1⟩

def threaded : SearchSettings Quantity :=
  { settings 3 with threads := .ofInt 3 }

def schedules (_ : Int) : List Nat :=
  [2, 0, 1]

def lab : Lab Simulation Counter :=
  ⟨.new rules, #[.empty], none, ⟨3⟩⟩

def coherence : Coherence Simulation seed.suite :=
  Simulation.coherence calm seed.suite

theorem ready : coherence.Ready lab := by
  have hnew : Returns (Candidate.new "quiet" seed.lines seed.suite seed.strategies)
      (.new (.new rules) ⟨3⟩) seed lab := rfl
  exact Simulation.ready_new calm hnew

/-- A candidate of the second generation has neither of the two statements. -/
theorem exists_repaired : ∃ result s',
    Returns (Search.search (settings 3) seed) (.new lab) result s' ∧ result.isRepair = true ∧
      result.generations.int? = some 2 ∧ s'.events.length = 16 :=
  exists_returns_of (by decide +kernel)

/-- In the first generation every candidate still has one of them. -/
theorem exists_limited : ∃ result s',
    Returns (Search.search (settings 1) seed) (.new lab) result s' ∧ result.isRepair = false ∧
      s'.state = .terminatedMaxGenerations ∧ result.fitness.int? = some 10 :=
  exists_returns_of (by decide +kernel)

end TwoFaults

end GeneticRepair
