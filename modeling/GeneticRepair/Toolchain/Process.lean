import GeneticRepair.Number.Quantity
import GeneticRepair.Text.Blank
import GeneticRepair.Text.Search
import GeneticRepair.Toolchain.Basic
/-!
# Toolchains of processes

A toolchain that starts an interpreter: once to compile a program, and once for each test, under the
tool that records coverage. Every variant gets a workspace of its own, which holds the program, its
tests, and the coverage data that the last test left. All tests leave their data in one place. It is
removed before a test starts, and again when it has been read, so that the data of one test never
reaches another.
-/

namespace GeneticRepair

/-- What a test leaves behind: the lines executed in each file, or a file that cannot be read. -/
inductive CoverageData where
  | measured (files : List (String × List Int))
  | unreadable

structure Workspace where
  directory : String
  identity : String
  files : FileTree
  coverageData : Option CoverageData

namespace Workspace

def dataFile (w : Workspace) : String :=
  Path.join w.directory ".coverage"

def programPath (w : Workspace) : String :=
  Path.join w.directory (w.identity ++ ".py")

def withoutData (w : Workspace) : Workspace :=
  { w with coverageData := none }

def leave (w : Workspace) (data : Option CoverageData) : Workspace :=
  { w with coverageData := data.or w.coverageData }

def linesOf (w : Workspace) (files : List (String × List Int)) : List Int :=
  Sorted.ofList ((files.filter fun (file, _) =>
    Path.name file == Path.name w.programPath).flatMap Prod.snd)

end Workspace

structure Command where
  arguments : List String
  timeLimit : Quantity
  /-- Where coverage is to be recorded, for a test. -/
  coverageFile : Option String

inductive ProcessEnd where
  | exited (code : Int) (errors : String)
  | timedOut
  /-- The interpreter does not exist. -/
  | notFound
  /-- The system refused to start it. -/
  | refused (fault : SystemFault)

/-- Starts processes, which may leave coverage data in the workspace. -/
class Processes (P : Type) where
  start : Command → Workspace → StateM P (ProcessEnd × Option CoverageData)

/-- Processes, and the workspace in which they are started. -/
structure Running (P : Type) where
  processes : P
  workspace : Workspace

namespace Running

variable {P ε α : Type} [Processes P]

/-- Starts a process. The data that it leaves takes the place of what was there. -/
def launch (command : Command) : ExceptT ε (StateM (Running P)) ProcessEnd :=
  modifyGet fun s =>
    let ((ending, data), processes) := (Processes.start command s.workspace).run s.processes
    (ending, ⟨processes, s.workspace.leave data⟩)

def discardData : ExceptT ε (StateM (Running P)) Unit :=
  modify fun s => { s with workspace := s.workspace.withoutData }

def within (w : Workspace) (act : ExceptT ε (StateM (Running P)) α) : ExceptT ε (StateM P) α :=
  ExceptT.mk fun processes =>
    let (r, s) := act.run.run ⟨processes, w⟩
    (r, s.processes)

end Running

structure Interpreter where
  path : String
  timeLimit : Quantity
  workspace : String

namespace Interpreter

def defaultTimeLimit : Quantity :=
  .number (.float 10.0)

/-- An interpreter whose time limit is not zero or below. -/
def new? (path : String) (timeLimit : Quantity) (workspace : String) : Option Interpreter :=
  if Scalar.atMost timeLimit (.ofInt 0) then none else some ⟨path, timeLimit, workspace⟩

def compileCommand (i : Interpreter) (w : Workspace) : Command :=
  ⟨[i.path, "-m", "py_compile", w.programPath], i.timeLimit, none⟩

def testCommand (i : Interpreter) (w : Workspace) (test : TestCase) : Command :=
  ⟨[i.path, "-m", "coverage", "run", "--include=" ++ w.programPath, "-m", "pytest", "-q", "-p",
    "no:cacheprovider", "--rootdir=" ++ w.directory, test.name], i.timeLimit, some w.dataFile⟩

def missing (i : Interpreter) : String :=
  "interpreter not found: " ++ i.path

variable {P : Type} [Processes P]

def build (i : Interpreter) : ExceptT ToolchainError (StateM (Running P)) BuildOutcome := do
  match ← Running.launch (i.compileCommand (← get).workspace) with
  | .exited code errors => return ⟨code == 0, .float 0.0, Text.trim errors⟩
  | .timedOut => return ⟨false, .float 0.0, "compilation timed out"⟩
  | .notFound => throw (.unavailable i.missing)
  | .refused fault => throw (.system fault)

/-! ## Coverage -/

inductive TestFault where
  /-- The tools that are needed cannot be used. -/
  | unavailable (reason : String)
  | unexpected

def missingTool? (errors : String) : Option String :=
  ["coverage", "pytest"].find? fun tool => Text.contains errors ("No module named " ++ tool)

/-- Whether a test was successful, by how its process has ended. -/
def verdict (i : Interpreter) : ProcessEnd → Except TestFault Bool
  | .exited code errors =>
    match missingTool? errors with
    | some tool => throw (.unavailable (tool ++ " is not installed for interpreter: " ++ i.path))
    | none => return code == 0
  | .timedOut => return false
  | .notFound => throw (.unavailable i.missing)
  | .refused _ => throw .unexpected

def perform (i : Interpreter) (test : TestCase) : ExceptT TestFault (StateM (Running P)) Bool := do
  Running.discardData
  let ending ← Running.launch (i.testCommand (← get).workspace test)
  liftExcept (i.verdict ending)

/-- Takes the lines that the last test has covered out of the workspace. Data that cannot be read
stays there. -/
def extract : ExceptT TestFault (StateM (Running P)) (List Int) := do
  let w := (← get).workspace
  match w.coverageData with
  | none => return []
  | some .unreadable => throw .unexpected
  | some (.measured files) =>
    Running.discardData
    return w.linesOf files

def record (i : Interpreter) (test : TestCase) :
    ExceptT TestFault (StateM (Running P)) TestCoverage := do
  let successful ← i.perform test
  return .make test.name (.instant successful) (← extract)

/-- The coverage of one test. What goes wrong unexpectedly counts as a failure of the test. -/
def runTest (i : Interpreter) (test : TestCase) :
    ExceptT ToolchainError (StateM (Running P)) TestCoverage :=
  ExceptT.mk do
    match ← (i.record test).run with
    | .ok coverage => return .ok coverage
    | .error .unexpected => return .ok (.make test.name (.instant false) [])
    | .error (.unavailable reason) => return .error (.unavailable reason)

/-- The coverage of the tests of a suite, which run one at a time. -/
def collect (i : Interpreter) (suite : TestSuite) :
    ExceptT ToolchainError (StateM (Running P)) CoverageMap :=
  return .ofList (← suite.tests.mapM i.runTest)

/-! ## Workspaces -/

def workspaceName (identity : String) : String :=
  "oolong-" ++ identity ++ "-xxxxxxxx"

def filed (files : FileTree) (work : Filing Unit) : Except ToolchainError FileTree :=
  match work.run.run files with
  | (.ok _, files) => return files
  | (.error e, _) => throw (.system (.file e))

def provision (i : Interpreter) (p : Program) : Except ToolchainError Workspace := do
  let _ ← filed .empty (changeFiles (·.makeDirectory ("/" ++ workspaceName p.identity)))
  let w : Workspace := ⟨i.workspace, p.identity, ⟨[], [Path.parts i.workspace]⟩, none⟩
  return { w with files := ← filed w.files (changeFiles (·.writeLines w.programPath p.lines)) }

def addSuite (suite : TestSuite) : ExceptT ToolchainError (StateM (Running P)) Unit := do
  let w := (← get).workspace
  let files ← liftExcept (filed w.files (suite.save w.directory))
  modify fun s => { s with workspace := { w with files } }

def compile (i : Interpreter) (p : Program) : ExceptT ToolchainError (StateM P) BuildOutcome := do
  Running.within (← liftExcept (i.provision p)) i.build

def test (i : Interpreter) (suite : TestSuite) :
    ExceptT ToolchainError (StateM (Running P)) TestRun := do
  let build ← i.build
  if build.successful then
    addSuite suite
    return ⟨build, ← i.collect suite⟩
  else
    return ⟨build, .empty⟩

def runTests (i : Interpreter) (p : Program) (suite : TestSuite) :
    ExceptT ToolchainError (StateM P) TestRun := do
  Running.within (← liftExcept (i.provision p)) (i.test suite)

end Interpreter

structure ProcessToolchain (P : Type) where
  interpreter : Interpreter
  processes : P

namespace ProcessToolchain

variable {P : Type} [Processes P]

def within {α : Type} (act : Interpreter → ExceptT ToolchainError (StateM P) α) :
    ExceptT ToolchainError (StateM (ProcessToolchain P)) α :=
  ExceptT.mk fun s =>
    let (r, processes) := (act s.interpreter).run.run s.processes
    (r, { s with processes })

instance : Toolchain (ProcessToolchain P) where
  compile p := within (·.compile p)
  runTests p suite := within (·.runTests p suite)

end ProcessToolchain

end GeneticRepair
