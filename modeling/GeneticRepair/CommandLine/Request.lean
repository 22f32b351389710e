import GeneticRepair.CommandLine.Options
import GeneticRepair.Config.Basic
/-!
# Requests

What the command line may be asked for: the coverage of the tests of a program, its suspicious
lines, a repair, or a series of repairs with consecutive seeds.
-/

namespace GeneticRepair.CommandLine

inductive ReportFormat where
  | text | yaml | json
  deriving Repr, DecidableEq

inductive LogFile where
  | none
  | next
  | named (path : String)
  deriving Repr, DecidableEq

structure RepairOptions where
  log : LogFile
  /-- Where the events of the search go. -/
  events : Option String
  printPatch : Bool
  overrides : Overrides

inductive Request where
  | nothing
  | coverage (config : String) (format : ReportFormat)
  | localize (config : String) (format : ReportFormat) (output : Option String)
  | repair (config : String) (options : RepairOptions)
  | benchmark (config : String) (runs : Int)

/-! ## The options of each command -/

def formatOption (words : List String) : OptionSpec :=
  ⟨"format", none, .oneOf words⟩

def outputOptions : List OptionSpec :=
  [⟨"silent", none, .flag⟩, ⟨"verbose", some 'v', .flag⟩]

def coverageOptions : List OptionSpec :=
  [helpOption, formatOption ["text", "yaml", "json"]]

def localizeOptions : List OptionSpec :=
  [helpOption, formatOption ["text", "json"], ⟨"output", none, .text⟩]

def repairOptions : List OptionSpec :=
  helpOption :: outputOptions ++
    [⟨"log-to-file", none, .text⟩, ⟨"no-log-to-file", none, .flag⟩,
      ⟨"log-events-to-file", none, .text⟩, ⟨"print-patch", none, .flag⟩,
      ⟨"patch-dir", none, .text⟩, ⟨"seed", none, .int⟩, ⟨"threads", none, .int⟩,
      ⟨"generations", none, .int⟩, ⟨"population", none, .int⟩]

def benchmarkOptions : List OptionSpec :=
  helpOption :: outputOptions ++ [⟨"runs", none, .int⟩]

def formatOf (g : Given) : ReportFormat :=
  match g.text? "format" with
  | some "yaml" => .yaml
  | some "json" => .json
  | _ => .text

def logOf (g : Given) : LogFile :=
  if g.has "no-log-to-file" then .none
  else match g.text? "log-to-file" with
    | some path => if path.isEmpty then .next else .named path
    | none => .next

def repairOptionsOf (g : Given) : RepairOptions :=
  let int (name : String) := (g.int? name).map Value.int
  { log := logOf g
    events := (g.text? "log-events-to-file").filter (!·.isEmpty)
    printPatch := g.has "print-patch"
    overrides := {
      seed := int "seed"
      threads := int "threads"
      patches := (g.text? "patch-dir").map Value.text
      generations := int "generations"
      population := int "population" } }

def defaultRuns : Int := 10

def command? : String → Option (List OptionSpec × (String → Given → Request))
  | "coverage" => some (coverageOptions, fun config g => .coverage config (formatOf g))
  | "localize" => some (localizeOptions, fun config g =>
      .localize config (formatOf g) ((g.text? "output").filter (!·.isEmpty)))
  | "repair" => some (repairOptions, fun config g => .repair config (repairOptionsOf g))
  | "benchmark" => some (benchmarkOptions, fun config g =>
      .benchmark config ((g.int? "runs").getD defaultRuns))
  | _ => none

def readCommand (knownSoFar : Bool) (name : String) (ws : List String) :
    Except Interruption Request := do
  match command? name with
  | none => throw .misuse
  | some (specs, request) =>
    let g ← readGiven specs ws
    match g.operands with
    | [config] => if knownSoFar && !g.unknown then return request config g else throw .misuse
    | _ => throw .misuse

def generalOptions : List OptionSpec :=
  [helpOption, versionOption, quietOption, debugOption]

def readRequest (knownSoFar : Bool) : List String → Except Interruption Request
  | [] => if knownSoFar then return .nothing else throw .misuse
  | w :: ws =>
    match readWord generalOptions w with
    | .option o none => do
      let _ ← takeFlag o .none
      readRequest knownSoFar ws
    | .letters cs => do
      let _ ← takeLetters generalOptions cs .none
      readRequest knownSoFar ws
    | .operand => readCommand knownSoFar w ws
    | .unknown => readRequest false ws
    | _ => throw .misuse

def Request.ofWords (ws : List String) : Except Interruption Request :=
  if anyAmbiguous generalOptions ws then throw .misuse else readRequest true ws

/-- Whether nothing is to be written on the screen. What tells more takes precedence, and only the
full names of both count. -/
def isQuiet (ws : List String) : Bool :=
  ws.any ["-q", "--quiet"].contains && !ws.any ["-d", "--debug"].contains

end GeneticRepair.CommandLine
