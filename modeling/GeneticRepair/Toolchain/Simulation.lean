import GeneticRepair.Text.Search
import GeneticRepair.Toolchain.Basic
/-!
# Simulated toolchains

A toolchain whose answers are rules on the text of a program: the texts at which a build fails, and
for each test the texts that it needs, those that it forbids, those that have to occur in order, and
those that mark the lines it executes. It counts how often it is used.
-/

namespace GeneticRepair

structure TestRule where
  needs : List String
  forbids : List String
  ordered : List String
  covers : List String

structure BuildRules where
  faults : List String
  broken : List String

structure SimulationRules where
  compile : BuildRules
  run : BuildRules
  unavailable : List String
  tests : List (String × TestRule)

namespace SimulationRules

def buildOfValue (v : Value) (operation : String) : BuildRules :=
  ⟨v.textsOf (operation ++ "_os_error"), v.textsOf "broken" ++ v.textsOf (operation ++ "_broken")⟩

def testOfValue (v : Value) : TestRule :=
  ⟨v.textsOf "needs", v.textsOf "forbids", v.textsOf "ordered", v.textsOf "covers"⟩

def ofValue (v : Value) : SimulationRules :=
  ⟨buildOfValue v "compile", buildOfValue v "run", v.textsOf "unavailable",
    match v.get? "tests" with
    | some (.map tests) => tests.map fun (name, rule) => (name, testOfValue rule)
    | _ => []⟩

end SimulationRules

structure Simulation where
  rules : SimulationRules
  compiles : Nat
  runs : Nat

namespace Simulation

def new (rules : SimulationRules) : Simulation :=
  ⟨rules, 0, 0⟩

def occursAny (texts : List String) (text : List Char) : Bool :=
  texts.any fun s => Text.occursIn s.toList text

def build (rules : SimulationRules) (own : BuildRules) (p : Program) :
    Except ToolchainError BuildOutcome :=
  let text := (Text.joinLines p.lines).toList
  if occursAny own.faults text then throw (.system (.general "scripted"))
  else if occursAny rules.unavailable text then throw (.unavailable "scripted")
  else match own.broken.find? fun s => Text.occursIn s.toList text with
    | some s => return ⟨false, .float 0.0, "broken: " ++ s⟩
    | none => return ⟨true, .float 0.0, ""⟩

def passes (rule : TestRule) (text : List Char) : Bool :=
  rule.needs.all (fun s => Text.occursIn s.toList text) &&
    rule.forbids.all (fun s => !Text.occursIn s.toList text) &&
    Text.occurInOrder (rule.ordered.map String.toList) text

/-- The one-based numbers of the lines that hold one of the marks. -/
def covered (rule : TestRule) (lines : List String) : List Int :=
  (lines.zipIdx.filter fun (line, _) => occursAny rule.covers line.toList).map fun (_, i) =>
    Int.ofNat (i + 1)

def run (rules : SimulationRules) (p : Program) (suite : TestSuite) : CoverageMap :=
  let text := (Text.joinLines p.lines).toList
  .ofList (suite.names.map fun name =>
    let rule := (rules.tests.lookup name).getD ⟨[], [], [], []⟩
    .make name (.instant (passes rule text)) (covered rule p.lines))

instance : Toolchain Simulation where
  compile p := do
    let s ← getModify fun s => { s with compiles := s.compiles + 1 }
    liftExcept (build s.rules s.rules.compile p)
  runTests p suite := do
    let s ← getModify fun s => { s with runs := s.runs + 1 }
    let build ← liftExcept (build s.rules s.rules.run p)
    return ⟨build, if build.successful then run s.rules p suite else .empty⟩

instance : Stepwise Simulation where
  testing p suite := Thread.attempt (Toolchain.runTests p suite)
  complete_testing _ _ := Thread.complete_attempt _

end Simulation

end GeneticRepair
