import GeneticRepair.Code.Edit
import GeneticRepair.Code.NodePrinter
import GeneticRepair.Code.OperatorSite
import GeneticRepair.Digest.Sha1
import GeneticRepair.Strategy.Basic
import GeneticRepair.Text.UnifiedDiff
import GeneticRepair.Toolchain.Basic
/-!
# Candidates

A candidate is a variant of the program under repair. What is known of its evaluation is kept in a
memo, which it shares with its copies; all memos, the toolchain, the baseline of the fitness
function and the source of randomness belong to one laboratory. An action of the laboratory may
fail, and what it did until then is kept.
-/

namespace GeneticRepair

open GeneticRepair.Code GeneticRepair.Text

inductive Failure where
  | toolchain (e : ToolchainError)
  /-- A candidate could not be evaluated. -/
  | evaluation (candidate : String) (fault : SystemFault)
  | sampling (e : SamplingError)
  | scoring (e : Metric.Failure)
  | arithmetic (e : ArithmeticError)
  | printing (e : PrintError)
  | path (e : PathError)
  | emptyPopulation
  | alreadyStarted
  /-- No candidate has been scored. -/
  | noBest
  /-- A count is no integer. -/
  | fractionalCount
  deriving Repr, DecidableEq

structure Candidate (R : Type) where
  /-- The name of the module under repair. -/
  identity : String
  lines : List String
  suite : TestSuite
  strategies : Strategies R
  /-- The number of the memo of its evaluation. -/
  memo : Nat

/-- What is known of the evaluation of a candidate. -/
structure Memo where
  build : Option BuildOutcome
  result : Option TestRun
  spectra : Option Spectra

def Memo.empty : Memo :=
  ⟨none, none, none⟩

/-- The tests that the first candidate to be scored passed and failed. -/
structure Baseline where
  passing : List String
  failing : List String
  deriving DecidableEq

structure Lab (T G : Type) where
  toolchain : T
  memos : Array Memo
  baseline : Option Baseline
  random : G

abbrev Action (T G α : Type) := ExceptT Failure (StateM (Lab T G)) α

namespace Lab

variable {T G α : Type}

def new (toolchain : T) (random : G) : Lab T G :=
  ⟨toolchain, #[], none, random⟩

def draw (act : StateM G α) : Action T G α :=
  modifyGet fun s => let (a, random) := act s.random; (a, { s with random })

def sample (act : ExceptT SamplingError (StateM G) α) : Action T G α := do
  match ← draw act.run with
  | .ok a => return a
  | .error e => throw (.sampling e)

def use (act : ExceptT ToolchainError (StateM T) α) : Action T G (Except ToolchainError α) :=
  modifyGet fun s => let (r, toolchain) := act.run s.toolchain; (r, { s with toolchain })

def orFail {ε : Type} (failure : ε → Failure) : Except ε α → Action T G α
  | .ok a => return a
  | .error e => throw (failure e)

def memo (i : Nat) : Action T G Memo :=
  return ((← get).memos[i]?).getD .empty

def setMemo (i : Nat) (m : Memo) : Action T G Unit :=
  modify fun s => { s with memos := s.memos.setIfInBounds i m }

def newMemo : Action T G Nat :=
  modifyGet fun s => (s.memos.size, { s with memos := s.memos.push .empty })

end Lab

namespace Candidate

variable {R T G : Type}

def program (c : Candidate R) : Program :=
  ⟨c.identity, c.lines⟩

/-- The lines by which candidates are told apart. -/
def content (c : Candidate R) : List String :=
  nonblank c.lines

def same (c d : Candidate R) : Bool :=
  c.content == d.content

/-- Eight hexadecimal digits that depend on the content alone. -/
def id (c : Candidate R) : String :=
  String.ofList ((Sha1.hex (joinLines c.content).toUTF8.toList).toList.take 8)

def text (c : Candidate R) : String :=
  "Candidate<#" ++ c.id ++ ">"

def new (identity : String) (lines : List String) (suite : TestSuite)
    (strategies : Strategies R) : Action T G (Candidate R) :=
  return ⟨identity, lines, suite, strategies, ← Lab.newMemo⟩

def derive (c : Candidate R) (lines : List String) : Action T G (Candidate R) :=
  new c.identity lines c.suite c.strategies

def diff (c d : Candidate R) : String :=
  let filename := c.identity ++ ".py"
  joinLines (unifiedDiff ("a/" ++ filename) ("b/" ++ filename) c.lines d.lines)

def save (c : Candidate R) (directory : String) : Filing Unit := do
  changeFiles (·.makeDirectories directory)
  changeFiles (·.writeLines (Path.join directory (c.identity ++ ".py")) c.lines)
  c.suite.save directory

end Candidate

inductive LoadError where
  | missing (path : String)
  | suite (e : SuiteError)
  deriving Repr, DecidableEq

/-- The program and the tests in a directory. The test file is named after the module unless another
name is given. -/
def loadProgram (t : FileTree) (directory identity : String) (tests : Option String) :
    Except LoadError (List String × TestSuite) :=
  let path := Path.join directory (identity ++ ".py")
  let testPath := Path.join directory (match tests with
    | some name => if name.isEmpty then "test_" ++ identity ++ ".py" else name
    | none => "test_" ++ identity ++ ".py")
  match t.content? path with
  | none => throw (.missing path)
  | some content =>
    if !t.isFile testPath then throw (.missing testPath)
    else match TestSuite.load t testPath with
      | .ok suite => return (readLines content, suite)
      | .error e => throw (.suite e)

end GeneticRepair
