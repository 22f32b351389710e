import GeneticRepair.Document.YamlReader
import GeneticRepair.Random.MersenneTwister
import GeneticRepair.Search.Event
import GeneticRepair.Session.Basic
/-!
# Desks

A desk holds what sessions share: the files, and the toolchain behind the caches. A session takes
its configuration and its program from the files, and leaves a log of its events and its outcome
there.
-/

namespace GeneticRepair

inductive Fault where
  | config (e : ConfigError)
  | session (e : SessionError)
  | file (e : FileError)
  /-- A configuration is not in the encoding of text files. -/
  | notText
  /-- A configuration is no document. -/
  | document (e : Yaml.Flaw)
  /-- A number cannot be written with fixed places. -/
  | fixed (e : FixedError)

structure Desk (T : Type) where
  files : FileTree
  toolchain : T

/-- Work at a desk. What was done before a fault stays done. -/
abbrev Working (T α : Type) := ExceptT Fault (StateM (Desk T)) α

namespace Desk

variable {T α : Type}

def orFault {ε : Type} (fault : ε → Fault) : Except ε α → Working T α
  | .ok a => return a
  | .error e => throw (fault e)

def withFiles (work : Filing Unit) : Working T Unit :=
  ExceptT.mk fun d =>
    let (r, files) := work.run.run d.files
    (r.mapError Fault.file, { d with files })

def writeText (path text : String) : Working T Unit :=
  withFiles (changeFiles (·.write path text.toUTF8))

def readDocument (path : String) : Working T Value := do
  let bytes ← orFault .file ((← get).files.read path)
  match String.fromUTF8? bytes with
  | none => throw .notText
  | some s =>
    orFault .document (Yaml.read (String.ofList (Text.unifyNewlines s.toList)))

def loadConfig (here : Surroundings) (path : String) (overrides : Overrides) :
    Working T Config := do
  let path := Path.absolute here.workingDirectory path
  let v ← readDocument path
  orFault .config (Config.ofValue here (some (Path.parent path)) overrides v)

variable [Toolchain T]

/-- Prepares a session, whose log begins with a summary of the configuration and ends with the
settings of the search. -/
def startSession (c : Config) : Working T (Session T MersenneTwister) := do
  let _ ← orFault .config c.summary
  let d ← get
  match Session.start c d.files d.toolchain (MersenneTwister.ofSeed c.seed.seed) with
  | .ok s =>
    set { d with toolchain := s.toolchain }
    let _ ← orFault .config (Config.announcement c.search)
    return s
  | .error (e, toolchain) =>
    set { d with toolchain }
    throw (.session e)

def writeEvents (path : String) (s : Session T MersenneTwister) : Working T Unit := do
  let log ← orFault .fixed (EventLog.recordAll ⟨path, ""⟩ s.search.events)
  writeText path log.text

/-- Runs a session and closes it, whether or not its search comes to an end. The file for its events
is made before. -/
def runSession (s : Session T MersenneTwister) (events : Option String) :
    Working T (SearchResult Quantity × Session T MersenneTwister) := do
  events.toList.forM fun path => writeText path ""
  let (r, s) := Session.run.run.run s
  modify fun d => { d with toolchain := s.toolchain }
  events.toList.forM fun path => writeEvents path s
  withFiles s.close
  return (← orFault .session r, s)

end Desk

end GeneticRepair
