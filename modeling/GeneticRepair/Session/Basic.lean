import GeneticRepair.Config.Basic
import GeneticRepair.Session.Subscription
import GeneticRepair.Toolchain.Cached
/-!
# Sessions

A session evaluates the program under repair, searches for a repair, and saves the outcome into a
new directory among those of earlier outcomes. All candidates are tested with one cached toolchain.
-/

namespace GeneticRepair

inductive SessionError where
  /-- The program under repair does not compile. -/
  | buildFailure (module : String)
  | load (e : LoadError)
  | failure (e : Failure)
  deriving Repr, DecidableEq

def buildFailureMessage (module : String) : String :=
  "failed to compile program: " ++ module ++ ".py"

structure Session (T G : Type) where
  /-- The directory of the outcomes. -/
  patches : String
  settings : SearchSettings Quantity
  seed : Candidate Quantity
  coverage : CoverageMap
  localization : Localization Quantity
  search : Search Quantity (Cached T) G
  subscriptions : Subscriptions String
  result : Option (SearchResult Quantity)

namespace Session

variable {T G : Type} [Toolchain T]

structure Diagnosis where
  seed : Candidate Quantity
  coverage : CoverageMap
  localization : Localization Quantity

def attempt {α : Type} (act : Action (Cached T) G α) :
    ExceptT SessionError (StateM (Lab (Cached T) G)) α :=
  ExceptT.mk do return (← act.run).mapError SessionError.failure

/-- Compiles and tests the program under repair, and finds its suspicious lines. -/
def diagnose (c : Config) (files : FileTree) :
    ExceptT SessionError (StateM (Lab (Cached T) G)) Diagnosis := do
  let p := c.program
  let (lines, suite) ← liftExcept
    ((loadProgram files p.directory p.module (some p.tests)).mapError SessionError.load)
  let seed ← attempt (Candidate.new p.module lines suite c.strategies)
  if !(← attempt seed.isCompilable) then
    throw (.buildFailure p.module)
  let result ← attempt seed.evaluate
  let _ ← attempt seed.fitness
  return ⟨seed, result.coverage, ← attempt seed.suspiciousness⟩

/-- Prepares a session. The toolchain is handed back if there is none. -/
def start (c : Config) (files : FileTree) (toolchain : T) (random : G) :
    Except (SessionError × T) (Session T G) :=
  match (diagnose c files).run.run (.new (.new toolchain) random) with
  | (.ok d, lab) =>
    return ⟨c.patches, c.search, d.seed, d.coverage, d.localization, .new lab, .none, none⟩
  | (.error e, lab) => throw (e, lab.toolchain.inner)

def toolchain (s : Session T G) : T :=
  s.search.lab.toolchain.inner

def received (s : Session T G) (handler : String) : List (Event Quantity) :=
  s.subscriptions.received handler s.search.events

def hasFoundRepair (s : Session T G) : Bool :=
  s.result.any SearchResult.isRepair

def run [RandomSource G] : ExceptT SessionError (StateM (Session T G)) (SearchResult Quantity) := do
  let s ← get
  let (r, search) := (Search.search s.settings s.seed).run.run s.search
  set { s with search }
  match r with
  | .ok result =>
    modify fun s => { s with result := some result }
    return result
  | .error e => throw (.failure e)

/-- The name of the directory of an outcome, by the number of those before it. -/
def outcomeName (earlier : Nat) (r : SearchResult Quantity) : String :=
  toString earlier ++ (if r.isRepair then "_succeeded" else "_failed")

def saveResult (patches : String) (r : SearchResult Quantity) : Filing Unit := do
  changeFiles (·.makeDirectories patches)
  let earlier := (← get).list patches
  r.candidate.save (Path.join patches (outcomeName earlier.length r))

/-- Ends the session: saves the outcome of the search, if there is one. -/
def close (s : Session T G) : Filing Unit :=
  s.result.forM (saveResult s.patches)

end Session

end GeneticRepair
