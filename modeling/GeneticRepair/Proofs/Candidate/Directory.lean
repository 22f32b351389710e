import GeneticRepair.Candidate.Basic
import GeneticRepair.Proofs.Toolchain.Workspace
import GeneticRepair.Toolchain.ProcessSimulation

/-!
# Candidates in directories

A candidate that has been saved can be loaded, and the processes that test it find its lines, as long
as its tests are not in the file of the program. If they are, the program is lost.
-/

namespace GeneticRepair

open GeneticRepair.Text

namespace Candidate

variable {R : Type} {c : Candidate R} {directory : String} {t t' : FileTree}

/-- The candidate can be told from its files: no line is broken, and the suite has been made of a file
with a name of its own. -/
structure Storable (c : Candidate R) : Prop where
  identity : '/' ∉ c.identity.toList
  lines : ∀ line ∈ c.lines, Unbroken line
  suite : TestSuite.ofLines c.suite.filename c.suite.lines = .ok c.suite
  suiteLines : ∀ line ∈ c.suite.lines, Unbroken line
  filename : Path.Plain c.suite.filename
  distinct : c.suite.filename ≠ c.identity ++ ".py"

private theorem contents_of_save (hc : c.Storable) {u : Unit}
    (h : Returns (c.save directory) t u t') :
    t'.content? (Path.join directory (c.identity ++ ".py")) = some (writeLines c.lines) ∧
      t'.content? (Path.join directory c.suite.filename) = some (writeLines c.suite.lines) := by
  obtain ⟨_, t₁, -, hrest⟩ := returns_bind.mp h
  obtain ⟨_, t₂, hprogram, hsuite⟩ := returns_bind.mp hrest
  have hwritten := FileTree.content?_of_write (returns_changeFiles.mp hprogram)
  have hchanged := returns_changeFiles.mp hsuite
  have hplain := Path.plain_append_py hc.identity
  exact ⟨FileTree.content?_of_write_of_ne hplain hc.filename hc.distinct.symm hwritten hchanged,
    FileTree.content?_of_write hchanged⟩

private theorem loadProgram_of_save (hc : c.Storable) {u : Unit}
    (h : Returns (c.save directory) t u t') :
    loadProgram t' directory c.identity (some c.suite.filename) = .ok (c.lines, c.suite) := by
  obtain ⟨hprogram, htests⟩ := contents_of_save hc h
  have hnamed : ¬ c.suite.filename.isEmpty = true := by
    simpa [String.isEmpty_iff] using hc.filename.ne_empty
  have hfile : t'.isFile (Path.join directory c.suite.filename) = true := by
    rw [FileTree.isFile, htests]
    rfl
  have hloaded : TestSuite.load t' (Path.join directory c.suite.filename) = .ok c.suite := by
    rw [TestSuite.load, htests]
    dsimp only
    rw [Path.name_join hc.filename, readLines_writeLines hc.suiteLines, hc.suite]
  unfold loadProgram
  dsimp only
  rw [if_neg hnamed, hprogram]
  dsimp only
  rw [hfile, hloaded, readLines_writeLines hc.lines]
  rfl

/-- Whatever a candidate has been saved as is loaded as the same program with the same tests. Its
tests are run in workspaces that hold the same program. -/
theorem stored_faithfully (hc : c.Storable) :
    (∀ directory t t', Returns (c.save directory) t () t' →
      loadProgram t' directory c.identity (some c.suite.filename) = .ok (c.lines, c.suite)) ∧
    ∀ (P : Type) [Processes P] (i : Interpreter) (processes : P),
      ∀ call ∈ ((i.runTests c.program c.suite).run.run (⟨processes, []⟩ : Started P)).2.calls,
        ∃ content, call.2.files.content? (Path.join call.2.directory (c.identity ++ ".py")) =
          some content ∧ readLines content = c.lines := by
  constructor
  · intro directory t t' h
    exact loadProgram_of_save hc h
  · intro P _ i processes call hcall
    have hholds := Interpreter.holds_of_started hc.identity hc.filename hc.distinct processes
      call hcall
    exact ⟨_, hholds.content, readLines_writeLines hc.lines⟩

end Candidate

namespace SelfTested

def candidate (filename : String) : Candidate Quantity :=
  ⟨"prog", ["x = 1", ""], ⟨filename, ["def test_a():", "    pass"], [⟨filename, none, "test_a"⟩]⟩,
    ⟨.classic true, .raw, .genprog, ⟨.ofInt 1, .ofInt 10⟩⟩, 0⟩

def interpreter : Interpreter :=
  ⟨"python", .ofInt 1, "/tmp/w"⟩

theorem storable : (candidate "test_prog.py").Storable where
  identity := by decide
  lines := by decide
  suite := by decide +kernel
  suiteLines := by decide
  filename := ⟨by decide, by decide, by decide, by decide⟩
  distinct := by decide

end SelfTested

namespace Candidate

/-- Two processes are started for a program with one test, and both find its lines. -/
theorem stored_faithfully_of_test :
    (∃ t', Returns ((SelfTested.candidate "test_prog.py").save "out") .empty () t' ∧
      loadProgram t' "out" "prog" (some "test_prog.py") =
        .ok (["x = 1", ""], (SelfTested.candidate "test_prog.py").suite)) ∧
    ∃ calls : List (Command × Workspace), calls.length = 2 ∧
      ∀ call ∈ calls, ∃ content, call.2.files.content? (Path.join call.2.directory "prog.py") =
        some content ∧ readLines content = ["x = 1", ""] := by
  have hfaithful := stored_faithfully SelfTested.storable
  constructor
  · have hsaved : (((SelfTested.candidate "test_prog.py").save "out").run.run .empty).1.toBool =
        true := by
      decide +kernel
    obtain ⟨⟨⟩, t', hreturns⟩ := exists_returns hsaved
    exact ⟨t', hreturns, hfaithful.1 "out" .empty t' hreturns⟩
  · refine ⟨_, ?_, hfaithful.2 ProcessSimulation SelfTested.interpreter ⟨.silent, [], []⟩⟩
    decide +kernel

/-- The tests take the place of a program that they share a file with. -/
theorem unfaithful_in_one_file :
    ∃ t', Returns ((SelfTested.candidate "prog.py").save "out") .empty () t' ∧
      loadProgram t' "out" "prog" (some "prog.py") =
        .ok (["def test_a():", "    pass"], (SelfTested.candidate "prog.py").suite) ∧
      (SelfTested.candidate "prog.py").lines ≠ ["def test_a():", "    pass"] := by
  have hsaved : (((SelfTested.candidate "prog.py").save "out").run.run .empty).1.toBool =
      true := by
    decide +kernel
  have hloaded : loadProgram (((SelfTested.candidate "prog.py").save "out").run.run .empty).2 "out"
      "prog" (some "prog.py") =
        .ok (["def test_a():", "    pass"], (SelfTested.candidate "prog.py").suite) := by
    decide +kernel
  obtain ⟨⟨⟩, t', hreturns⟩ := exists_returns hsaved
  rw [show _ = (Except.ok (), t') from hreturns] at hloaded
  exact ⟨t', hreturns, hloaded, by decide⟩

end Candidate

end GeneticRepair
