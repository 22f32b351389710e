import GeneticRepair.Candidate.Mutation
import GeneticRepair.Proofs.Code.Target
import GeneticRepair.Proofs.Code.Transformation
import GeneticRepair.Proofs.Random
import GeneticRepair.Proofs.Toolchain.Simulation

/-!
# What mutation comes to

While the tools can be used, a mutation ends with the candidate itself, with a variant of it whose
lines are those of a mutated module, or with one of two failures: a calculation with scores has
failed, or the mutated module has no text. The second is not caught.
-/

namespace GeneticRepair

open GeneticRepair.Code

/-- What mutation makes of a module. -/
inductive Code.Node.Mutates (module : Node) : Node → Prop
  | deleted {target : Statement} {m : Node} (target_mem : target ∈ module.statements)
      (made : module.delete target = .ok m) : Mutates module m
  | inserted {crossScope : Bool} {target donor : Statement} {m : Node}
      (target_mem : target ∈ module.statements)
      (donor_mem : donor ∈ module.donors crossScope target)
      (made : module.insert target donor = .ok m) : Mutates module m
  | swapped {crossScope : Bool} {target donor : Statement} {m : Node}
      (target_mem : target ∈ module.statements)
      (donor_mem : donor ∈ module.donors crossScope target)
      (made : module.swap target donor = .ok m) : Mutates module m
  | replaced {site : OperatorSite} {op : Operator} (site_mem : site ∈ module.operatorSites)
      (op_mem : op ∈ site.alternatives) : Mutates module (module.withOperator site op)

def Failure.IsArithmetic : Failure → Prop
  | .scoring _ | .sampling (.arithmetic _) => True
  | _ => False

def Failure.IsEvaluation : Failure → Prop
  | .evaluation .. => True
  | _ => False

namespace Contract

variable {T G : Type} [Toolchain T]

/-- The toolchain of the laboratory fulfils the contract. -/
def Binds (k : Contract T) (lab : Lab T G) : Prop :=
  k.valid lab.toolchain

/-- Wherever the tools cannot be used by the contract, that is one of the failures. -/
structure Spares (k : Contract T) (failure : Failure → Prop) : Prop where
  build : ∀ p reason, k.build p (.error (.unavailable reason)) →
    failure (.toolchain (.unavailable reason))
  testRun : ∀ p suite reason, k.testRun p suite (.error (.unavailable reason)) →
    failure (.toolchain (.unavailable reason))

theorem Available.spares {k : Contract T} (h : k.Available) (failure : Failure → Prop) :
    k.Spares failure where
  build p reason hreason := (h.build p reason hreason).elim
  testRun p suite reason hreason := (h.testRun p suite reason hreason).elim

end Contract

variable {R T G α ε : Type} [Toolchain T] {k : Contract T} {c : Candidate R}
  {value : α → Prop} {failure : Failure → Prop}

namespace Lab

private theorem ends_memo (i : Nat) :
    Ends (k.Binds (G := G)) (memo i) (fun _ => True) failure :=
  ends_get.bind fun _ _ => ends_pure trivial

private theorem ends_setMemo (i : Nat) (m : Memo) :
    Ends (k.Binds (G := G)) (setMemo i m) (fun _ => True) failure :=
  ends_modify fun _ hs => hs

private theorem ends_newMemo : Ends (k.Binds (G := G)) newMemo (fun _ => True) failure :=
  ends_modifyGet fun _ hs => ⟨trivial, hs⟩

theorem ends_draw {act : StateM G α} (h : ∀ g, value (act.run g).1) :
    Ends k.Binds (draw act : Action T G α) value failure :=
  ends_modifyGet fun s hs => ⟨h s.random, hs⟩

private theorem ends_sample {act : ExceptT SamplingError (StateM G) α}
    {caught : SamplingError → Prop}
    (h : Ends (fun _ => True) act value caught) (hfailure : ∀ e, caught e → failure (.sampling e)) :
    Ends k.Binds (sample act : Action T G α) value failure := by
  have hdraw : Ends k.Binds (draw act.run : Action T G _) (Meets value caught) failure :=
    ends_draw fun g => (h g trivial).1
  refine hdraw.bind fun r hr => ?_
  cases r with
  | ok a => exact ends_pure hr
  | error e => exact ends_throw (hfailure e hr)

theorem ends_orFail {failed : ε → Failure} {r : Except ε α}
    (hvalue : ∀ a, r = .ok a → value a) (hfailure : ∀ e, r = .error e → failure (failed e)) :
    Ends k.Binds (orFail failed r : Action T G α) value failure := by
  cases r with
  | ok a => exact ends_pure (hvalue a rfl)
  | error e => exact ends_throw (hfailure e rfl)

private theorem ends_use_compile (p : Program) :
    Ends (k.Binds (G := G)) (use (Toolchain.compile p)) (k.build p) failure :=
  ends_modifyGet fun s hs => k.compile_answers p s.toolchain hs

private theorem ends_use_runTests (p : Program) (suite : TestSuite) :
    Ends (k.Binds (G := G)) (use (Toolchain.runTests p suite)) (k.testRun p suite) failure :=
  ends_modifyGet fun s hs => k.runTests_answers p suite s.toolchain hs

end Lab

namespace Candidate

/-! ## Evaluation -/

private theorem ends_rememberBuild (m : Memo) (build : BuildOutcome) :
    Ends (k.Binds (G := G)) (c.rememberBuild m build) (fun _ => True) failure :=
  (Lab.ends_setMemo _ _).bind fun _ _ => ends_pure trivial

theorem ends_isCompilable (hspares : k.Spares failure) :
    Ends (k.Binds (G := G)) c.isCompilable (fun _ => True) failure := by
  refine (Lab.ends_memo _).bind fun m _ => ?_
  split
  · exact ends_pure trivial
  · exact ends_rememberBuild _ _
  · refine (Lab.ends_use_compile c.program).bind fun r hr => ?_
    match r, hr with
    | .ok _, _ => exact ends_rememberBuild _ _
    | .error (.system _), _ => exact ends_pure trivial
    | .error (.unavailable reason), hr => exact ends_throw (hspares.build _ reason hr)

private theorem ends_testAll (hspares : k.Spares failure) :
    Ends (k.Binds (G := G)) (runTests.testAll c) (fun _ => True)
      fun e => e.IsEvaluation ∨ failure e := by
  refine (Lab.ends_use_runTests c.program c.suite).bind fun r hr => ?_
  match r, hr with
  | .ok _, _ => exact ends_pure trivial
  | .error (.system _), _ => exact ends_throw (.inl trivial)
  | .error (.unavailable reason), hr => exact ends_throw (.inr (hspares.testRun _ _ reason hr))

private theorem ends_evaluate (hspares : k.Spares failure) :
    Ends (k.Binds (G := G)) c.evaluate (fun _ => True) fun e => e.IsEvaluation ∨ failure e := by
  have hruns : ∀ build, Ends (k.Binds (G := G)) (c.runTests build) (fun _ => True)
      fun e => e.IsEvaluation ∨ failure e := by
    intro build
    cases build with
    | none => exact ends_testAll hspares
    | some build =>
      simp only [runTests]
      split
      · exact ends_testAll hspares
      · exact ends_pure trivial
  refine (Lab.ends_memo _).bind fun m _ => ?_
  split
  · exact ends_pure trivial
  · refine (hruns m.build).bind fun result _ => ?_
    exact (Lab.ends_setMemo _ _).bind fun _ _ => ends_pure trivial

private theorem ends_evaluate? (hspares : k.Spares failure) :
    Ends (k.Binds (G := G)) c.evaluate? (fun _ => True) failure := by
  refine ((ends_evaluate hspares).map fun _ _ => trivial).tryCatch fun e he => ?_
  rcases he with he | he
  · cases e with
    | evaluation => exact ends_pure trivial
    | _ => exact he.elim
  · cases e with
    | evaluation => exact ends_pure trivial
    | _ => exact ends_throw he

theorem ends_evaluateCompiled? (hspares : k.Spares failure) :
    Ends (k.Binds (G := G)) c.evaluateCompiled? (fun _ => True) failure := by
  refine (ends_isCompilable hspares).bind fun compiles _ => ?_
  split
  · exact (ends_evaluate? hspares).bind fun _ _ => ends_pure trivial
  · exact ends_pure trivial

private theorem ends_spectra : Ends (k.Binds (G := G)) c.spectra (fun _ => True) failure := by
  refine (Lab.ends_memo _).bind fun m _ => ?_
  split
  · exact ends_pure trivial
  · exact (Lab.ends_setMemo _ _).bind fun _ _ => ends_pure trivial
  · exact ends_pure trivial

private theorem ends_suspiciousness [Scalar R] (hspares : k.Spares failure)
    (hscoring : ∀ e, failure (.scoring e)) :
    Ends (k.Binds (G := G)) c.suspiciousness (fun _ => True) failure := by
  refine (ends_evaluateCompiled? hspares).bind fun r _ => ?_
  cases r with
  | none => exact ends_pure trivial
  | some result =>
    refine ends_spectra.bind fun spectra _ => ?_
    exact Lab.ends_orFail (fun _ _ => trivial) fun e _ => hscoring e

end Candidate

/-! ## Mutation -/

namespace Candidate

/-- A module that mutation makes of the module of a candidate. -/
def Transforms (c : Candidate R) (m : Node) : Prop :=
  ∃ module, c.parsed? = some module ∧ module.Mutates m

/-- The second candidate is a variant of the first one for the same search. -/
structure Kin (c d : Candidate R) : Prop where
  identity : d.identity = c.identity
  suite : d.suite = c.suite
  strategies : d.strategies = c.strategies

/-- The second candidate is the first one with the lines of a mutated module. -/
structure Bears (c d : Candidate R) : Prop extends Kin c d where
  lines : ∃ m, c.Transforms m ∧ m.toLines = .ok d.lines

/-- What comes of a mutation that is successful. -/
def IsMutant (c d : Candidate R) : Prop :=
  d = c ∨ c.Bears d

/-- Why a mutation fails. -/
def Impedes (c : Candidate R) (e : Failure) : Prop :=
  e.IsArithmetic ∨ ∃ m reason, c.Transforms m ∧ m.toLines = .error reason ∧ e = .printing reason

theorem shaped_of_parsed? {module : Node} (h : c.parsed? = some module) : module.Shaped := by
  unfold parsed? at h
  split at h
  · rename_i hparse
    obtain rfl := Option.some.inj h
    exact shaped_parseLines hparse
  · cases h

theorem ends_derive (lines : List String) :
    Ends (k.Binds (G := G)) (c.derive lines) (fun d => c.Kin d ∧ d.lines = lines) failure :=
  Lab.ends_newMemo.bind fun _ _ => ends_pure ⟨⟨rfl, rfl, rfl⟩, rfl⟩

private theorem ends_derive_printed {m : Node} (hm : c.Transforms m) :
    Ends (k.Binds (G := G)) (do c.derive (← printed m)) c.IsMutant c.Impedes := by
  have hprinted : Ends (k.Binds (G := G)) (printed m) (fun lines => m.toLines = .ok lines)
      c.Impedes :=
    Lab.ends_orFail (fun _ h => h) fun reason h => .inr ⟨m, reason, hm, h, rfl⟩
  refine hprinted.bind fun lines hlines => ?_
  refine (ends_derive lines).mono (fun d hd => .inr ⟨hd.1, m, hm, ?_⟩) fun _ h => h
  rw [hlines, hd.2]

variable [RandomSource G]

theorem ends_oneOf (x : α) (xs : List α) :
    Ends (k.Binds (G := G)) (oneOf x xs : Action T G α) (fun y => y ∈ x :: xs) failure :=
  Lab.ends_draw (Random.choose_mem x xs)

private theorem ends_edit {module : Node} (hparsed : c.parsed? = some module) {crossScope : Bool}
    {target : Statement} (htarget : target ∈ module.statements) (e : Edit) :
    Ends (k.Binds (G := G)) (edit module crossScope target e)
      (fun r => ∀ m ∈ r, module.Mutates m) failure := by
  have hshaped := shaped_of_parsed? hparsed
  have hdonated : ∀ donor ∈ module.donors crossScope target, donor ∈ module.statements :=
    fun donor hdonor => (List.mem_filter.mp hdonor).1
  unfold edit
  split
  · obtain ⟨r, hr⟩ := Node.exists_delete hshaped htarget
    rw [hr]
    exact ends_pure (by simpa using .deleted htarget hr)
  · split
    · exact ends_pure (by simp)
    · rename_i donor donors hdonors
      refine (ends_oneOf donor donors).bind fun chosen hchosen => ?_
      rw [← hdonors] at hchosen
      split
      · obtain ⟨r, hr⟩ := Node.exists_insert hshaped htarget (hdonated chosen hchosen)
        rw [hr]
        exact ends_pure (by simpa using .inserted htarget hchosen hr)
      · obtain ⟨r, hr⟩ := Node.exists_swap hshaped htarget (hdonated chosen hchosen)
        rw [hr]
        exact ends_pure (by simpa using .swapped htarget hchosen hr)

variable [Scalar R]

theorem ends_happens {probability : R} :
    Ends (k.Binds (G := G)) (happens probability) (fun _ => True) failure := by
  have hdraw : Ends (k.Binds (G := G)) (Lab.draw Random.unit) (fun _ => True) failure :=
    Lab.ends_draw fun _ => trivial
  exact hdraw.bind fun _ _ => ends_pure trivial

private theorem ends_sampleLine {targets : Localization R} (h : ¬ targets.scores.isEmpty = true) :
    Ends (k.Binds (G := G)) (Lab.sample targets.sample) (fun _ => True) c.Impedes := by
  have hsample : Ends (fun _ : G => True) targets.sample (fun _ => True)
      fun e => ∃ a, e = .arithmetic a := by
    unfold Localization.sample
    cases hscores : targets.scores with
    | nil => exact absurd (by simp [hscores]) h
    | cons entry entries =>
      exact (Random.ends_weightedChoice entry entries).mono (fun _ _ => trivial) fun _ h => h
  refine Lab.ends_sample hsample ?_
  rintro _ ⟨a, rfl⟩
  exact .inl trivial

private theorem ends_mutateStatement {module : Node} (hparsed : c.parsed? = some module)
    (localization : Localization R) :
    Ends (k.Binds (G := G)) (c.mutateStatement module localization) c.IsMutant c.Impedes := by
  unfold mutateStatement
  dsimp only
  split
  · exact ends_pure (.inl rfl)
  · rename_i hsome
    refine (ends_sampleLine hsome).bind fun line _ => ?_
    split
    · exact ends_pure (.inl rfl)
    · rename_i target htarget
      refine (ends_oneOf _ _).bind fun e _ => ?_
      refine (ends_edit hparsed (Node.mem_statements_of_lookup htarget) e).bind fun r hr => ?_
      split
      · exact ends_pure (.inl rfl)
      · rename_i m
        exact ends_derive_printed ⟨module, hparsed, hr m rfl⟩

omit [Scalar R] in
private theorem ends_mutateOperator {module : Node} (hparsed : c.parsed? = some module)
    {site : OperatorSite} (hsite : site ∈ module.operatorSites) :
    Ends (k.Binds (G := G)) (c.mutateOperator module site) c.IsMutant c.Impedes := by
  unfold mutateOperator
  split
  · exact ends_pure (.inl rfl)
  · rename_i op ops hops
    refine (ends_oneOf op ops).bind fun chosen hchosen => ?_
    rw [← hops] at hchosen
    exact ends_derive_printed ⟨module, hparsed, .replaced hsite hchosen⟩

variable (hspares : k.Spares failure) (himpedes : ∀ e, c.Impedes e → failure e)
include hspares himpedes

private theorem ends_mutateParsed {module : Node} (hparsed : c.parsed? = some module) :
    Ends (k.Binds (G := G)) (c.mutateParsed module) c.IsMutant failure := by
  have hstatement : ∀ localization,
      Ends (k.Binds (G := G)) (c.mutateStatement module localization) c.IsMutant failure :=
    fun localization => (ends_mutateStatement hparsed localization).mono (fun _ h => h) himpedes
  have hscoring : ∀ e, failure (.scoring e) := fun e => himpedes _ (.inl trivial)
  refine (ends_suspiciousness hspares hscoring).bind fun localization _ => ?_
  split
  · exact hstatement localization
  · split
    · exact hstatement localization
    · rename_i site sites hsites
      refine ends_happens.bind fun happened _ => ?_
      split
      · refine (ends_oneOf site sites).bind fun chosen hchosen => ?_
        rw [← hsites] at hchosen
        have hsite := (List.mem_filter.mp hchosen).1
        exact (ends_mutateOperator hparsed hsite).mono (fun _ h => h) himpedes
      · exact hstatement localization

theorem ends_mutate : Ends (k.Binds (G := G)) c.mutate c.IsMutant failure := by
  refine (ends_isCompilable hspares).bind fun compiles _ => ?_
  split
  · cases hparsed : c.parsed? with
    | none => exact ends_pure (.inl rfl)
    | some module => exact ends_mutateParsed hspares himpedes hparsed
  · exact ends_pure (.inl rfl)

omit hspares himpedes

/-- A mutation comes to a mutant or to one of the two failures, if the tools can be used. -/
theorem mutate_outcome (havailable : k.Available) (c : Candidate R) {lab : Lab T G}
    (hvalid : k.valid lab.toolchain) :
    (∃ d lab', Returns c.mutate lab d lab' ∧ c.IsMutant d) ∨
      ∃ e lab', c.mutate.run.run lab = (.error e, lab') ∧ c.Impedes e := by
  have hends := (ends_mutate (c := c) (havailable.spares c.Impedes) (fun _ he => he) lab hvalid).1
  rcases hrun : c.mutate.run.run lab with ⟨e | d, lab'⟩
  · rw [hrun] at hends
    exact .inr ⟨e, lab', rfl, hends⟩
  · rw [hrun] at hends
    exact .inl ⟨d, lab', hrun, hends⟩

end Candidate

/-! ## A module without a text -/

namespace Unprintable

def rules : SimulationRules :=
  ⟨⟨[], []⟩, ⟨[], []⟩, [], [("test_z.py::test_z", ⟨["z = 9"], [], [], ["z"]⟩)]⟩

def candidate (line : String) : Candidate Quantity :=
  ⟨"xyz", ["x = 1", line, "z = 2"], ⟨"test_z.py", [], [⟨"test_z.py", none, "test_z"⟩]⟩,
    ⟨.classic true, .raw, .genprog, ⟨.ofInt 1, .ofInt 10⟩⟩, 0⟩

def lab : Lab Simulation Counter :=
  ⟨.new rules, #[.empty], none, ⟨0⟩⟩

private theorem available : (Simulation.contract rules).Available :=
  Simulation.available_contract rfl

end Unprintable

namespace Candidate

/-- The interpolated expression cannot be written without a backslash, so no mutant has a text. -/
theorem mutate_unprintable :
    (Simulation.contract Unprintable.rules).Available ∧
    (Simulation.contract Unprintable.rules).valid Unprintable.lab.toolchain ∧
    ∃ lab', (Unprintable.candidate "y = f'\x7b\"\x01\"\x7d'").mutate.run.run Unprintable.lab =
      (.error (.printing .backslash), lab') :=
  ⟨Unprintable.available, rfl, exists_fails (by decide +kernel)⟩

theorem mutate_printable :
    ∃ d lab', Returns (Unprintable.candidate "y = 1").mutate Unprintable.lab d lab' ∧
      (Unprintable.candidate "y = 1").IsMutant d := by
  have hvalid : (Simulation.contract Unprintable.rules).valid Unprintable.lab.toolchain := rfl
  have hok :
      failure? ((Unprintable.candidate "y = 1").mutate.run.run Unprintable.lab).1 = none := by
    decide +kernel
  rcases mutate_outcome Unprintable.available (Unprintable.candidate "y = 1") hvalid with h | h
  · exact h
  · obtain ⟨e, lab', hrun, -⟩ := h
    rw [hrun] at hok
    cases hok

end Candidate

end GeneticRepair
