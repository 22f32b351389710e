import GeneticRepair.Proofs.File.Tree
import GeneticRepair.Proofs.Outcome
import GeneticRepair.Proofs.Text.Lines
import GeneticRepair.Toolchain.Process

/-!
# What processes find

Every process that is started for a program finds the program in its workspace, also when the tests
have been put beside it.
-/

namespace GeneticRepair

open GeneticRepair.Text

/-- Processes with the record of their starts, each with the workspace that it found. -/
structure Started (P : Type) where
  inner : P
  calls : List (Command × Workspace)

instance {P : Type} [Processes P] : Processes (Started P) where
  start command w := fun s =>
    let (r, inner) := (Processes.start command w : StateM P _).run s.inner
    (r, ⟨inner, s.calls ++ [(command, w)]⟩)

theorem Path.plain_append_py {identity : String} (h : '/' ∉ identity.toList) :
    Path.Plain (identity ++ ".py") := by
  have hchars : (identity ++ ".py").toList = identity.toList ++ ['.', 'p', 'y'] := by simp
  have hne : ∀ s : String, s.toList.length < 3 → identity ++ ".py" ≠ s := by
    rintro s hs rfl
    rw [hchars, List.length_append, List.length_cons] at hs
    simp only [List.length_cons, List.length_nil] at hs
    omega
  refine ⟨hne _ (by decide), hne _ (by decide), hne _ (by decide), ?_⟩
  rw [hchars]
  simp [h]

namespace Workspace

/-- The workspace holds the program. -/
structure Holds (w : Workspace) (p : Program) : Prop where
  identity : w.identity = p.identity
  content : w.files.content? (Path.join w.directory (p.identity ++ ".py")) =
    some (writeLines p.lines)

end Workspace

namespace Interpreter

variable {P ε : Type} [Processes P] {i : Interpreter} {p : Program} {suite : TestSuite}
  {w w' : Workspace} {failure : ε → Prop}

/-- Whatever has been started found the program. -/
def Served (p : Program) (s : Started P) : Prop :=
  ∀ call ∈ s.calls, call.2.Holds p

/-- So will the processes that are started next. -/
structure Serves (p : Program) (s : Running (Started P)) : Prop where
  served : Served p s.processes
  holds : s.workspace.Holds p

private theorem filed_eq_ok {files files' : FileTree} {work : Filing Unit} :
    filed files work = .ok files' ↔ Returns work files () files' := by
  rw [filed, Returns]
  rcases work.run.run files with ⟨_ | _, changed⟩
  · constructor
    · intro h
      cases h
    · intro h
      cases h
  · constructor
    · intro h
      rw [Except.ok.inj h]
    · intro h
      rw [(Prod.mk.inj h).2]
      rfl

private theorem holds_provision (h : i.provision p = .ok w) : w.Holds p := by
  simp only [provision, bind_eq_ok] at h
  obtain ⟨_, -, files, hfiles, hw⟩ := h
  obtain rfl := Except.ok.inj hw
  have hwritten := returns_changeFiles.mp (filed_eq_ok.mp hfiles)
  exact ⟨rfl, FileTree.content?_of_write hwritten⟩

theorem run_runTest {Q : Type} [Processes Q] (test : TestCase) (s : Running Q) :
    (i.runTest test).run.run s = match (i.record test).run.run s with
      | (.ok coverage, s') => (.ok coverage, s')
      | (.error .unexpected, s') => (.ok (.make test.name (.instant false) []), s')
      | (.error (.unavailable reason), s') => (.error (.unavailable reason), s') := by
  rw [runTest, ExceptT.run_mk, StateT.run_bind]
  rcases (i.record test).run.run s with ⟨(_ | _) | _, s'⟩
  · rfl
  · rfl
  · rfl

private theorem ends_launch (command : Command) :
    Ends (Serves (P := P) p) (Running.launch command) (fun _ => True) failure := by
  refine ends_modifyGet fun s hs => ⟨trivial, ?_, ⟨hs.holds.identity, hs.holds.content⟩⟩
  intro call hcall
  rcases List.mem_append.mp hcall with hcall | hcall
  · exact hs.served call hcall
  · rw [List.mem_singleton.mp hcall]
    exact hs.holds

omit [Processes P] in
private theorem ends_discardData :
    Ends (Serves (P := P) p) Running.discardData (fun _ => True) failure :=
  ends_modify fun _ hs => ⟨hs.served, hs.holds.identity, hs.holds.content⟩

private theorem ends_build : Ends (Serves (P := P) p) i.build (fun _ => True) fun _ => True := by
  refine ends_get.bind fun s _ => (ends_launch _).bind fun ending _ => ?_
  cases ending with
  | exited code errors => exact ends_pure trivial
  | timedOut => exact ends_pure trivial
  | notFound => exact ends_throw trivial
  | refused fault => exact ends_throw trivial

private theorem ends_perform (test : TestCase) :
    Ends (Serves (P := P) p) (i.perform test) (fun _ => True) fun _ => True := by
  refine ends_discardData.bind fun _ _ => ends_get.bind fun s _ =>
    (ends_launch _).bind fun ending _ => ?_
  exact ends_liftExcept (fun _ _ => trivial) fun _ _ => trivial

omit [Processes P] in
private theorem ends_extract : Ends (Serves (P := P) p) extract (fun _ => True) fun _ => True := by
  refine ends_get.bind fun s _ => ?_
  dsimp only
  split
  · exact ends_pure trivial
  · exact ends_throw trivial
  · refine ends_discardData.bind fun _ _ => ?_
    exact ends_pure trivial

private theorem ends_runTest (test : TestCase) :
    Ends (Serves (P := P) p) (i.runTest test) (fun _ => True) fun _ => True := by
  have hrecord : Ends (Serves (P := P) p) (i.record test) (fun _ => True) fun _ => True := by
    refine (ends_perform test).bind fun _ _ => ends_extract.bind fun _ _ => ?_
    exact ends_pure trivial
  intro s hs
  have hs' := (hrecord s hs).2
  rw [run_runTest]
  revert hs'
  rcases (i.record test).run.run s with ⟨(_ | _) | _, s'⟩
  · exact fun hs' => ⟨trivial, hs'⟩
  · exact fun hs' => ⟨trivial, hs'⟩
  · exact fun hs' => ⟨trivial, hs'⟩

private theorem ends_collect :
    Ends (Serves (P := P) p) (i.collect suite) (fun _ => True) fun _ => True := by
  refine (Ends.mapM fun test _ => ends_runTest test).bind fun _ _ => ?_
  exact ends_pure trivial

omit [Processes P] in
private theorem ends_addSuite (hidentity : '/' ∉ p.identity.toList)
    (hplain : Path.Plain suite.filename)
    (hne : suite.filename ≠ p.identity ++ ".py") :
    Ends (Serves (P := P) p) (addSuite suite) (fun _ => True) fun _ => True := by
  refine ends_get.bind fun s hs => ?_
  have hfiled : Ends (Serves (P := P) p)
      (liftExcept (filed s.workspace.files (suite.save s.workspace.directory)))
      (fun files => Workspace.Holds { s.workspace with files } p)
      fun _ : ToolchainError => True := by
    refine ends_liftExcept (fun files h => ?_) fun _ _ => trivial
    have hwritten := returns_changeFiles.mp (filed_eq_ok.mp h)
    exact ⟨hs.holds.identity, FileTree.content?_of_write_of_ne (Path.plain_append_py hidentity)
      hplain hne.symm hs.holds.content hwritten⟩
  exact hfiled.bind fun files hholds => ends_modify fun _ hs => ⟨hs.served, hholds⟩

private theorem ends_test (hidentity : '/' ∉ p.identity.toList) (hplain : Path.Plain suite.filename)
    (hne : suite.filename ≠ p.identity ++ ".py") :
    Ends (Serves (P := P) p) (i.test suite) (fun _ => True) fun _ => True := by
  refine ends_build.bind fun build _ => ?_
  split
  · refine (ends_addSuite hidentity hplain hne).bind fun _ _ => ends_collect.bind fun _ _ => ?_
    exact ends_pure trivial
  · exact ends_pure trivial

private theorem ends_runTests (hidentity : '/' ∉ p.identity.toList)
    (hplain : Path.Plain suite.filename)
    (hne : suite.filename ≠ p.identity ++ ".py") :
    Ends (Served (P := P) p) (i.runTests p suite) (fun _ => True) fun _ => True := by
  have hprovision : Ends (Served (P := P) p) (liftExcept (i.provision p)) (·.Holds p)
      fun _ : ToolchainError => True :=
    ends_liftExcept (fun _ h => holds_provision h) fun _ _ => trivial
  refine hprovision.bind fun w hw s hs => ?_
  have htest := ends_test (i := i) hidentity hplain hne ⟨s, w⟩ ⟨hs, hw⟩
  exact ⟨htest.1, htest.2.served⟩

/-- Every process that tests the program finds the lines of the program. -/
theorem holds_of_started (hidentity : '/' ∉ p.identity.toList)
    (hplain : Path.Plain suite.filename) (hne : suite.filename ≠ p.identity ++ ".py")
    (processes : P) : Served p
      ((i.runTests p suite : ExceptT ToolchainError (StateM (Started P)) TestRun).run.run
        ⟨processes, []⟩).2 :=
  (ends_runTests hidentity hplain hne _ fun _ h => absurd h List.not_mem_nil).2

end Interpreter

end GeneticRepair
