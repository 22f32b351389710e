import GeneticRepair.Code.NodeReader
import GeneticRepair.Config.Error
import GeneticRepair.File.Tree
/-!
# Test suites

A suite is a file of tests. The tests are found by looking at the syntax of the file: functions at
the top whose names begin with `test`, and methods of that kind in classes at the top whose names
begin with `Test`. Tests are told apart by their names, so a redefined test counts once.
-/

namespace GeneticRepair

open GeneticRepair.Code GeneticRepair.Text

structure TestCase where
  filename : String
  className : Option String
  function : String
  deriving DecidableEq

def TestCase.name (t : TestCase) : String :=
  match t.className with
  | some c => t.filename ++ "::" ++ c ++ "::" ++ t.function
  | none => t.filename ++ "::" ++ t.function

structure TestSuite where
  filename : String
  lines : List String
  tests : List TestCase
  deriving DecidableEq

inductive SuiteError where
  | misconfigured (m : Misconfiguration)
  | nullCharacter
  deriving Repr, DecidableEq

namespace TestSuite

def testFunction? (n : Node) : Option String :=
  match n.label with
  | .function name .. => if name.startsWith "test" then some name else none
  | _ => none

def testsOf (filename : String) (n : Node) : List TestCase :=
  match n.label with
  | .classDef name .. =>
    if name.startsWith "Test" then
      ((n.rawBlock .body).filterMap testFunction?).map (⟨filename, some name, ·⟩)
    else []
  | _ => ((testFunction? n).toList).map (⟨filename, none, ·⟩)

/-- Keeps the first of the tests of each name. -/
def distinct : List TestCase → List TestCase
  | [] => []
  | t :: ts => t :: (distinct ts).filter (·.name != t.name)

def discover (filename : String) (module : Node) : List TestCase :=
  distinct ((module.rawBlock .body).flatMap (testsOf filename))

def ofLines (filename : String) (lines : List String) : Except SuiteError TestSuite :=
  match readModule (joinLines lines) with
  | .ok module => return ⟨filename, lines, discover filename module⟩
  | .error .malformed => throw (.misconfigured (.testFileUnparsable filename))
  | .error .nullCharacter => throw .nullCharacter

def load (t : FileTree) (path : String) : Except SuiteError TestSuite :=
  match t.content? path with
  | some content => ofLines (Path.name path) (readLines content)
  | none => throw (.misconfigured (.testFileNotFound path))

def save (s : TestSuite) (directory : String) : Filing Unit :=
  changeFiles (·.writeLines (Path.join directory s.filename) s.lines)

def names (s : TestSuite) : List String :=
  s.tests.map TestCase.name

def find? (s : TestSuite) (name : String) : Option TestCase :=
  s.tests.find? (·.name == name)

def text (s : TestSuite) : String :=
  "TestSuite(" ++ quotedString s.filename ++ ", " ++ toString s.tests.length ++ " tests)"

end TestSuite

end GeneticRepair
