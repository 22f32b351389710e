import GeneticRepair.CommandLine.Request
import GeneticRepair.Document.JsonPrinter
import GeneticRepair.Document.YamlPrinter
import GeneticRepair.Session.Desk
import GeneticRepair.Text.Duration
import GeneticRepair.Text.Template
/-!
# Execution

What the command line does at a desk. A command returns, exits with a status, or stops at a fault.
Faults that are to be expected are reported as errors, with status one. The log itself is not kept;
only its file is made.
-/

namespace GeneticRepair.CommandLine

structure Console (T : Type) where
  desk : Desk T
  output : String
  errors : String

inductive Stop where
  | exit (code : Nat)
  | fault (f : Fault)
  /-- The number of a log file cannot be read, or that of the next one cannot be written. -/
  | logNumber
  /-- The name of a log file cannot be filled in. -/
  | logName (e : Text.TemplateError)
  | duration (e : Text.DurationError)

abbrev Executing (T α : Type) := ExceptT Stop (StateM (Console T)) α

variable {T α : Type}

def atDesk (work : Working T α) : Executing T α :=
  ExceptT.mk fun c =>
    let (r, desk) := work.run.run c.desk
    (r.mapError .fault, { c with desk })

def print (s : String) : Executing T Unit :=
  modify fun c => { c with output := c.output ++ s ++ "\n" }

/-! ## Errors -/

def faultText : SystemFault → String
  | .general s => "OSError(" ++ Text.quotedString s ++ ")"
  | .permission => "PermissionError()"
  | .file _ => "FileExistsError()"

def report? : Fault → Option String
  | .config (.misconfigured m) => some m.message
  | .session (.buildFailure module) => some (buildFailureMessage module)
  | .session (.load (.missing path)) => some path
  | .session (.load (.suite (.misconfigured m))) => some m.message
  | .session (.failure (.toolchain (.unavailable reason))) => some (unavailableMessage reason)
  | .session (.failure (.evaluation candidate fault)) =>
    some ("(Candidate<#" ++ candidate ++ ">, " ++ faultText fault ++ ")")
  | .session (.failure .alreadyStarted) => some ""
  | _ => none

def reporting (act : Executing T α) : Executing T α :=
  tryCatch act fun stop => do
    match stop with
    | .fault f =>
      match report? f with
      | some s =>
        modify fun c => { c with errors := c.errors ++ "ERROR: " ++ s ++ "\n" }
        throw (.exit 1)
      | none => throw stop
    | _ => throw stop

variable (here : Surroundings)

def absolute (path : String) : String :=
  Path.absolute here.workingDirectory path

/-! ## Log files -/

def isLogName (name : String) : Bool :=
  name.startsWith "oolong.log."

def lastSuffix (name : String) : String :=
  String.ofList (name.toList.reverse.takeWhile (· != '.')).reverse

def isDigitLikeText (s : String) : Bool :=
  !s.isEmpty && s.toList.all Text.isDigitLike

/-- The numbers in the names of log files; none if one of them cannot be read. -/
def logNumbers (names : List String) : Option (List Int) :=
  (((names.filter isLogName).map lastSuffix).filter isDigitLikeText).mapM Number.readInt?

def nextNumber (numbers : List Int) : Int :=
  match numbers.max? with
  | none => 0
  | some n => n + 1

/-- The name of the next log file among files. A number of more than 4300 digits cannot be written. -/
def nextLog (names : List String) : Option String := do
  let number := nextNumber (← logNumbers names)
  if number < Nat.pow 10 4300 then some ("oolong.log." ++ toString number) else none

/-- What a field in the name of a log file stands for. The time is not kept. -/
def logField? (name : String) : Option String :=
  if name == "time" then some "" else none

def openLog (path : String) : Executing T Unit :=
  let path := absolute here path
  atDesk (Desk.withFiles do
    changeFiles (·.makeDirectories (Path.parent path))
    unless (← get).isFile path do changeFiles (·.write path .empty))

def setLog : LogFile → Executing T Unit
  | .none => return ()
  | .named name =>
    match Text.Template.fill logField? name with
    | .ok path => openLog here path
    | .error e => throw (.logName e)
  | .next => do
    match nextLog ((← get).desk.files.list here.workingDirectory) with
    | some name => openLog here name
    | none => throw .logNumber

/-! ## Commands -/

variable [Toolchain T]

def openSession (config : String) (overrides : Overrides) :
    Executing T (Session T MersenneTwister) :=
  atDesk do Desk.startSession (← Desk.loadConfig here config overrides)

def coverageText (m : CoverageMap) : ReportFormat → String
  | .text => m.text
  | .yaml => Yaml.write m.toValue
  | .json => Json.indented 0 m.toValue

def coverage (config : String) (format : ReportFormat) : Executing T Unit := do
  let s : Session T MersenneTwister ← openSession here config {}
  print (coverageText s.coverage format)

omit [Toolchain T] in
def printLocalization (l : Localization Quantity) (format : ReportFormat) : Executing T Unit := do
  match format with
  | .json => print (← atDesk (Desk.orFault .fixed (l.toJson (Json.indented 0))))
  | _ => (← atDesk (Desk.orFault .fixed (l.scoreTexts 4))).forM print

def localize (config : String) (format : ReportFormat) (output : Option String) :
    Executing T Unit := do
  let s : Session T MersenneTwister ← openSession here config {}
  output.toList.forM fun path => atDesk do
    Desk.writeText (absolute here path) ""
    Desk.writeText (absolute here path) (← Desk.orFault .fixed (s.localization.toJson Json.compact))
  printLocalization s.localization format

def repair (config : String) (options : RepairOptions) : Executing T Unit := do
  setLog here options.log
  let s : Session T MersenneTwister ← openSession here config options.overrides
  let (r, _) ← atDesk (Desk.runSession s (options.events.map (absolute here)))
  if options.printPatch && r.isRepair then
    print (s.seed.diff r.candidate)
  throw (.exit (if r.isRepair then 0 else 1))

def searchWith (config : String) (seed : Int) : Executing T (SearchResult Quantity) := do
  let s : Session T MersenneTwister ← openSession here config { seed := some (.int seed) }
  return (← atDesk (Desk.runSession s none)).1

def meanTime (times : List Quantity) : Except ArithmeticError Quantity := do
  Scalar.div (← Scalar.sum times) (.ofInt times.length)

def benchmark (config : String) (runs : Int) : Executing T Unit := do
  if runs < 1 then
    throw (.exit 1)
  let c ← atDesk (T := T) (Desk.loadConfig here config {})
  let first := (c.seed.int?).getD 0
  let results ← (List.range runs.toNat).mapM fun i => searchWith here config (first + Int.ofNat i)
  let times := results.map SearchResult.timeTaken
  let mean ← atDesk (Desk.orFault (fun e => .fixed (.arithmetic e)) (meanTime times))
  match Text.wholeSeconds (.ofQuantity mean) with
  | .error e => throw (.duration e)
  | .ok seconds =>
    let repairs := (results.filter SearchResult.isRepair).length
    print ("repaired program in " ++ toString repairs ++ " of " ++ toString runs ++ " runs")
    print ("mean time taken: " ++ Text.durationText seconds)

omit [Toolchain T] in
def printUsage : Executing T Unit :=
  print "usage: oolong [--help] [--version] \x7bcoverage,localize,repair,benchmark\x7d"

def carryOut : Request → Executing T Unit
  | .nothing => printUsage
  | .coverage config format => coverage here config format
  | .localize config format output => localize here config format output
  | .repair config options => repair here config options
  | .benchmark config runs => benchmark here config runs

omit [Toolchain T] in
def unseen (act : Executing T α) : Executing T α :=
  ExceptT.mk fun c =>
    let (r, d) := act.run.run c
    (r, { d with output := c.output, errors := c.errors })

/-- Answers the words. Those that make no sense end with status two. -/
def answer (words : List String) : Executing T Unit := do
  match Request.ofWords words with
  | .ok request => reporting (carryOut here request)
  | .error .version =>
    print "OOLONG 0.1.0"
    throw (.exit 0)
  | .error .help =>
    printUsage
    throw (.exit 0)
  | .error .misuse => throw (.exit 2)

def execute (words : List String) : Executing T Unit :=
  if isQuiet words then unseen (answer here words) else answer here words

end GeneticRepair.CommandLine
