import GeneticRepair.Toolchain.Process
/-!
# Simulated processes

Processes that end as they are told to, after leaving the coverage data that they are told to leave.
Every command is recorded, with the workspace in which it was given.
-/

namespace GeneticRepair

structure ProcessRule where
  leaves : Option CoverageData
  ending : ProcessEnd

def ProcessRule.silent : ProcessRule :=
  ⟨none, .exited 0 ""⟩

/-- Files with the lines that were executed in them; of a file that comes twice the last lines
count. -/
def CoverageData.filesOfValue (v : Value) : List (String × List Int) :=
  match v with
  | .list files => Entries.ofList (files.filterMap fun
    | .list [.text file, .list lines] => some (file, lines.filterMap fun
      | .int n => some n
      | _ => none)
    | _ => none)
  | _ => []

namespace ProcessRule

def endingOfValue (v : Value) : ProcessEnd :=
  match v.get? "raise" with
  | some (.text "timeout") => .timedOut
  | some (.text "missing") => .notFound
  | some (.text "permission") => .refused .permission
  | _ =>
    let code := match v.get? "returncode" with
      | some (.int n) => n
      | _ => 0
    let errors := match v.get? "stderr" with
      | some (.text s) => s
      | _ => ""
    .exited code errors

def ofValue (v : Value) : ProcessRule where
  leaves :=
    if (v.get? "corrupt").any Value.isTrue then some .unreadable
    else (v.get? "covered").map fun files => .measured (CoverageData.filesOfValue files)
  ending := endingOfValue v

end ProcessRule

structure ProcessSimulation where
  compiler : ProcessRule
  /-- The rules for tests, by name. -/
  tests : List (String × ProcessRule)
  /-- The commands so far, the last one first. -/
  calls : List (Command × Workspace)

namespace ProcessSimulation

def ruleFor (s : ProcessSimulation) (command : Command) : ProcessRule :=
  match command.coverageFile with
  | none => s.compiler
  | some _ => (s.tests.lookup (command.arguments.getLast?.getD "")).getD .silent

instance : Processes ProcessSimulation where
  start command w := do
    let s ← getModify fun s => { s with calls := (command, w) :: s.calls }
    let rule := s.ruleFor command
    return (rule.ending, rule.leaves)

end ProcessSimulation

end GeneticRepair
