import GeneticRepair.Collection.Entries
import GeneticRepair.Document.Key
import GeneticRepair.Document.Value
/-!
# Test coverage

The outcome of each test of a suite, with the lines of the program that the test executed. Lines are
kept in ascending order, and so are the tests, by their names. Names are texts and lines are
integers, but a document may record both by other keys.

The outcome of a build or a test is what it came to, and how many seconds it took. The verdict on a
test is kept as it was recorded; whatever counts as true is a success. Outcomes are compared
attribute by attribute, verdict with verdict and time with time, so that one whose time is not a
number does not equal itself.
-/

namespace GeneticRepair

structure BuildOutcome where
  successful : Bool
  timeTaken : Number
  /-- The messages of the compiler. -/
  diagnostics : String
  deriving DecidableEq

structure TestOutcome where
  verdict : Value
  timeTaken : Value

namespace TestOutcome

def instant (successful : Bool) : TestOutcome :=
  ⟨.bool successful, .float 0.0⟩

def successful (o : TestOutcome) : Bool :=
  o.verdict.isTrue

def text (o : TestOutcome) : String :=
  if o.successful then "PASS" else "FAIL"

def same (o p : TestOutcome) : Bool :=
  o.verdict.same p.verdict && o.timeTaken.same p.timeTaken

def toValue (o : TestOutcome) : Value :=
  .map [("successful", o.verdict), ("time-taken", o.timeTaken)]

def ofValue (v : Value) : Except DocumentError TestOutcome := do
  let verdict ← v.demand "successful"
  return ⟨verdict, ← v.demand "time-taken"⟩

end TestOutcome

structure TestCoverage (N : Type := String) (L : Type := Int) where
  test : N
  outcome : TestOutcome
  /-- The one-based lines that the test executed, in ascending order. -/
  lines : List L

namespace TestCoverage

variable {N L : Type}

def make [LT L] [DecidableLT L] (test : N) (outcome : TestOutcome) (lines : List L) :
    TestCoverage N L :=
  ⟨test, outcome, Sorted.ofList lines⟩

def successful (c : TestCoverage N L) : Bool :=
  c.outcome.successful

def contains [BEq L] (c : TestCoverage N L) (line : L) : Bool :=
  c.lines.contains line

variable [ToValue N] [ToValue L]

def text (c : TestCoverage N L) : String :=
  shownText c.test ++ " [" ++ c.outcome.text ++ "]: \x7b" ++
    ", ".intercalate (c.lines.map shownText) ++ "\x7d"

def toValue (c : TestCoverage N L) : Value :=
  .map [("name", ToValue.toValue c.test), ("outcome", c.outcome.toValue),
    ("lines", .list (c.lines.map ToValue.toValue))]

def same (c d : TestCoverage N L) : Bool :=
  (ToValue.toValue c.test).same (ToValue.toValue d.test) && c.outcome.same d.outcome &&
    (Value.list (c.lines.map ToValue.toValue)).same (.list (d.lines.map ToValue.toValue))

end TestCoverage

/-- The coverage of the tests of a suite, by name. -/
structure CoverageMap (N : Type := String) (L : Type := Int) where
  entries : List (N × TestCoverage N L)

namespace CoverageMap

variable {N L : Type}

def empty : CoverageMap N L :=
  ⟨[]⟩

/-- The coverage of several tests; of a test that comes twice the last entry counts. -/
def ofList [LT N] [DecidableLT N] (cs : List (TestCoverage N L)) : CoverageMap N L :=
  ⟨Sorted.ofEntries (cs.map fun c => (c.test, c))⟩

def tests (m : CoverageMap N L) : List (TestCoverage N L) :=
  m.entries.map Prod.snd

def names (m : CoverageMap N L) : List N :=
  m.entries.map Prod.fst

def size (m : CoverageMap N L) : Nat :=
  m.entries.length

def restrict (m : CoverageMap N L) (keep : TestCoverage N L → Bool) : CoverageMap N L :=
  ⟨m.entries.filter fun (_, c) => keep c⟩

def passing (m : CoverageMap N L) : CoverageMap N L :=
  m.restrict TestCoverage.successful

def failing (m : CoverageMap N L) : CoverageMap N L :=
  m.restrict (!·.successful)

variable [ToValue N] [ToValue L]

def text (m : CoverageMap N L) : String :=
  "\x7b\n" ++ "\n".intercalate (m.tests.map fun c => "  " ++ c.text) ++ "\n\x7d"

def toValue (m : CoverageMap N L) : Value :=
  .list (m.tests.map TestCoverage.toValue)

def same (m n : CoverageMap N L) : Bool :=
  m.size == n.size && (m.tests.zip n.tests).all fun (c, d) => c.same d

end CoverageMap

/-! ## Coverage in documents -/

namespace CoverageMap

def recordOfValue (v : Value) : Except DocumentError (Value × TestOutcome × List Key) := do
  let test ← v.demand "name"
  let outcome ← TestOutcome.ofValue (← v.demand "outcome")
  let lines ← (← (← v.demand "lines").items).mapM Key.ofValue
  return (test, outcome, lines)

def checkSortable (ks : List Key) : Except DocumentError Unit :=
  if Key.sortable ks then return else throw .wrongShape

/-- The coverage that a document records. -/
def ofValue (v : Value) : Except DocumentError (CoverageMap Key Key) := do
  let records ← (← v.items).mapM recordOfValue
  let names ← records.mapM fun (test, _) => Key.ofValue test
  checkSortable names
  records.forM fun (_, _, lines) => checkSortable lines
  return ofList ((names.zip records).map fun (name, _, outcome, lines) => .make name outcome lines)

/-- Whether a document with the same contents as a map records the same. -/
def isReadBack (m : CoverageMap Key Key) : Bool :=
  match ofValue m.toValue with
  | .ok n => n.same m
  | .error _ => false

end CoverageMap

end GeneticRepair
