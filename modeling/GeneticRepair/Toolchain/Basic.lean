import GeneticRepair.Concurrency.Thread
import GeneticRepair.Coverage.Map
import GeneticRepair.Suite.Basic
/-!
# Toolchains

A toolchain compiles variants of a program, and runs the tests of a suite against them. What it
answers may depend on a state, and both operations may fail to give an answer at all.

A toolchain that runs the tests of several programs at a time does so step by step. Without
interruption the steps of a test run come to what it does when it is alone.
-/

namespace GeneticRepair

/-- A variant of the program under repair. -/
structure Program where
  /-- The name of its module. -/
  identity : String
  lines : List String
  deriving DecidableEq

inductive SystemFault where
  | general (text : String)
  | permission
  | file (e : FileError)
  deriving Repr, DecidableEq

inductive ToolchainError where
  /-- The tools that are needed cannot be used. -/
  | unavailable (reason : String)
  | system (fault : SystemFault)
  deriving Repr, DecidableEq

def unavailableMessage (reason : String) : String :=
  "toolchain unavailable: " ++ reason

/-- The result of compiling a program and running its tests. No test has run if the program failed
to compile. -/
structure TestRun where
  build : BuildOutcome
  coverage : CoverageMap

namespace TestRun

def compiled (r : TestRun) : Bool :=
  r.build.successful

def passing (r : TestRun) : List String :=
  r.coverage.passing.names

def failing (r : TestRun) : List String :=
  r.coverage.failing.names

end TestRun

/-- A toolchain, given by what it does in its states. -/
class Toolchain (T : Type) where
  compile : Program → ExceptT ToolchainError (StateM T) BuildOutcome
  runTests : Program → TestSuite → ExceptT ToolchainError (StateM T) TestRun

class Stepwise (T : Type) [Toolchain T] where
  testing : Program → TestSuite → ExceptT ToolchainError (Thread T) TestRun
  complete_testing : ∀ p suite, Thread.complete (testing p suite) = Toolchain.runTests p suite

end GeneticRepair
