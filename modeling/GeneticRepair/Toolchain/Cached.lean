import GeneticRepair.Collection.RecentlyUsed
import GeneticRepair.Toolchain.Basic
/-!
# Cached toolchains

A toolchain that remembers the outcomes of the most recent compilations and test runs of another
one. Blank lines count when programs are told apart, since they shift the lines that tests cover. A
suite is known by the name of its file. An operation that fails is not remembered.
-/

namespace GeneticRepair

structure Cached (T : Type) where
  inner : T
  builds : RecentlyUsed Program BuildOutcome
  runs : RecentlyUsed (Program × String) TestRun

namespace Cached

def defaultCapacity : Quantity :=
  .ofInt 1024

def ofCapacity {T : Type} (inner : T) (capacity : Quantity) : Cached T :=
  ⟨inner, .empty capacity.floor?, .empty capacity.floor?⟩

def new {T : Type} (inner : T) : Cached T :=
  ofCapacity inner defaultCapacity

/-- A cache of another capacity; none if there is no room to remember anything. -/
def new? {T : Type} (inner : T) (capacity : Quantity) : Option (Cached T) :=
  if Scalar.less capacity (.ofInt 1) then none else some (ofCapacity inner capacity)

def setInner {T : Type} (s : Cached T) (inner : T) : Cached T :=
  { s with inner }

variable {T : Type} [Toolchain T]

def within {α : Type} (act : ExceptT ToolchainError (StateM T) α) :
    ExceptT ToolchainError (StateM (Cached T)) α :=
  ExceptT.mk fun s => let (r, inner) := act.run.run s.inner; (r, { s with inner })

def recallBuild (p : Program) : ExceptT ToolchainError (StateM (Cached T)) (Option BuildOutcome) :=
  modifyGet fun s => let (r, builds) := s.builds.get p; (r, { s with builds })

def recallRun (key : Program × String) :
    ExceptT ToolchainError (StateM (Cached T)) (Option TestRun) :=
  modifyGet fun s => let (r, runs) := s.runs.get key; (r, { s with runs })

/-- Remembers a test run, and with it a build. -/
def rememberRun (p : Program) (filename : String) (result : TestRun) :
    ExceptT ToolchainError (StateM (Cached T)) Unit :=
  modify fun s => { s with
    runs := s.runs.put (p, filename) result
    builds := s.builds.put p result.build }

def compile (p : Program) : ExceptT ToolchainError (StateM (Cached T)) BuildOutcome := do
  match ← recallBuild p with
  | some outcome => return outcome
  | none =>
    let outcome ← within (Toolchain.compile p)
    modify fun s => { s with builds := s.builds.put p outcome }
    return outcome

def runTests (p : Program) (suite : TestSuite) :
    ExceptT ToolchainError (StateM (Cached T)) TestRun := do
  match ← recallRun (p, suite.filename) with
  | some result => return result
  | none =>
    let result ← within (Toolchain.runTests p suite)
    rememberRun p suite.filename result
    return result

instance : Toolchain (Cached T) where
  compile := compile
  runTests := runTests

/-- What is remembered is looked up at once, and so is a result remembered; others may come in
between. -/
def testing [Stepwise T] (p : Program) (suite : TestSuite) :
    ExceptT ToolchainError (Thread (Cached T)) TestRun := do
  match ← Thread.attempt (recallRun (p, suite.filename)) with
  | some result => return result
  | none =>
    let result ← ExceptT.mk ((Stepwise.testing p suite).run.within inner setInner)
    Thread.attempt (rememberRun p suite.filename result)
    return result

theorem complete_testing [Stepwise T] (p : Program) (suite : TestSuite) :
    Thread.complete (testing p suite : ExceptT _ (Thread (Cached T)) _) = runTests p suite := by
  have hinner : Thread.complete (ExceptT.mk ((Stepwise.testing p suite).run.within inner setInner))
      = (within (Toolchain.runTests p suite) : ExceptT _ (StateM (Cached T)) _) := by
    rw [← Stepwise.complete_testing]
    apply ExceptT.ext
    funext s
    have hset : ∀ (s : Cached T) t, inner (setInner s t) = t := fun _ _ => rfl
    have hsame : ∀ s : Cached T, setInner s (inner s) = s := fun _ => rfl
    have hlast : ∀ (s : Cached T) t t', setInner (setInner s t) t' = setInner s t' :=
      fun _ _ _ => rfl
    exact Thread.finish_within hset hsame hlast _ s
  rw [testing, runTests, Thread.complete_bind, Thread.complete_attempt]
  congr 1
  funext found
  cases found with
  | some result => rfl
  | none => simp only [Thread.complete_bind, hinner, Thread.complete_attempt, Thread.complete_pure]

instance [Stepwise T] : Stepwise (Cached T) where
  testing := testing
  complete_testing := complete_testing

end Cached

end GeneticRepair
