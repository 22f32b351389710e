import GeneticRepair.Proofs.Toolchain.Coherence
import GeneticRepair.Proofs.Toolchain.Workspace
import GeneticRepair.Toolchain.ProcessSimulation

/-!
# What is recorded of each test

All tests leave their coverage data in one place. Nevertheless what is recorded of a test depends on
its own process alone, whatever the processes before it have left there.
-/

namespace GeneticRepair

/-! ## Processes -/

/-- A process that was started: for what, in which workspace, and what came of it. -/
structure Launch where
  command : Command
  workspace : Workspace
  ending : ProcessEnd
  leaves : Option CoverageData

namespace Launch

/-- The process shows that the tools are missing. -/
def LacksTools (l : Launch) : Prop :=
  l.ending = .notFound ∨
    ∃ code errors, l.ending = .exited code errors ∧ (Interpreter.missingTool? errors).isSome

/-- The process could not be started, or its data cannot be read. -/
def GoesWrong (l : Launch) : Prop :=
  (∃ fault, l.ending = .refused fault) ∨ l.leaves = some .unreadable

/-- What is recorded is what came of this process. -/
structure Attests (l : Launch) (c : TestCoverage) : Prop where
  successful_iff : c.successful = true ↔ (∃ errors, l.ending = .exited 0 errors) ∧ ¬ l.GoesWrong
  mem_lines_iff : ∀ line, line ∈ c.lines ↔
    (∃ files, l.leaves = some (.measured files) ∧ line ∈ l.workspace.linesOf files) ∧ ¬ l.GoesWrong

variable {P : Type} [Processes P]

/-- Starting the process in one state leads to the other. -/
def Leads (l : Launch) (s t : P) : Prop :=
  (Processes.start l.command l.workspace).run s = ((l.ending, l.leaves), t)

end Launch

variable {P : Type} [Processes P]

/-- The processes that are started one after another, from one state to another. -/
inductive Launched : P → List Launch → P → Prop
  | none {s : P} : Launched s [] s
  | next {s t u : P} {l : Launch} {ls : List Launch} (first : l.Leads s t)
      (rest : Launched t ls u) : Launched s (l :: ls) u

namespace Launch

variable {l : Launch} {name : String}

private theorem attests_of_goesWrong (h : l.GoesWrong) :
    l.Attests (.make name (.instant false) []) where
  successful_iff := by
    constructor
    · intro hsuccess
      cases hsuccess
    · exact fun hfine => absurd h hfine.2
  mem_lines_iff line := by
    constructor
    · intro hmem
      cases hmem
    · exact fun hfine => absurd h hfine.2

private theorem attests_of_not_goesWrong {successful : Bool} {lines : List Int} (h : ¬ l.GoesWrong)
    (hsuccessful : successful = true ↔ ∃ errors, l.ending = .exited 0 errors)
    (hlines : ∀ line, line ∈ lines ↔
      ∃ files, l.leaves = some (.measured files) ∧ line ∈ l.workspace.linesOf files) :
    l.Attests (.make name (.instant successful) lines) where
  successful_iff := by
    rw [and_iff_left h]
    exact hsuccessful
  mem_lines_iff line := by
    rw [and_iff_left h, ← hlines]
    exact Sorted.mem_ofList

private theorem meets_verdict (i : Interpreter) (l : Launch) :
    Meets (fun successful => ¬ l.LacksTools ∧ (∀ fault, l.ending ≠ .refused fault) ∧
        (successful = true ↔ ∃ errors, l.ending = .exited 0 errors))
      (fun fault => match fault with
        | .unavailable _ => l.LacksTools
        | .unexpected => ¬ l.LacksTools ∧ l.GoesWrong)
      (i.verdict l.ending) := by
  obtain ⟨command, workspace, ending, leaves⟩ := l
  cases ending with
  | exited code errors =>
    rw [Interpreter.verdict]
    cases htool : Interpreter.missingTool? errors with
    | some tool => exact .inr ⟨code, errors, rfl, by rw [htool]; rfl⟩
    | none =>
      refine ⟨?_, nofun, by simp⟩
      rintro (h | ⟨_, _, h, hsome⟩)
      · cases h
      · cases h
        rw [htool] at hsome
        cases hsome
  | timedOut => exact ⟨by simp [LacksTools], nofun, by simp⟩
  | notFound => exact .inl rfl
  | refused fault => exact ⟨by simp [LacksTools], .inl ⟨fault, rfl⟩⟩

end Launch

/-! ## Tests -/

namespace Interpreter

variable {i : Interpreter} {test : TestCase} {s : Running P}

private theorem exists_launch (i : Interpreter) (test : TestCase) (s : Running P) :
    ∃ l t, Launch.Leads l s.processes t ∧ l.command = i.testCommand s.workspace test ∧
      l.workspace = s.workspace.withoutData ∧
      (i.perform test).run.run s =
        (i.verdict l.ending, ⟨t, s.workspace.withoutData.leave l.leaves⟩) := by
  rcases h : (Processes.start (i.testCommand s.workspace test) s.workspace.withoutData).run
    s.processes with ⟨⟨ending, data⟩, t⟩
  refine ⟨⟨i.testCommand s.workspace test, s.workspace.withoutData, ending, data⟩, t, h, rfl, rfl,
    ?_⟩
  have hdiscard : Returns (ε := TestFault) Running.discardData s ()
      ⟨s.processes, s.workspace.withoutData⟩ :=
    returns_modify.mpr rfl
  have hlaunch : Returns (ε := TestFault) (Running.launch (i.testCommand s.workspace test))
      ⟨s.processes, s.workspace.withoutData⟩ ending
      ⟨t, s.workspace.withoutData.leave data⟩ := by
    rw [Running.launch, returns_modifyGet, h]
  rw [perform, hdiscard.run_bind, (returns_get.mpr ⟨rfl, rfl⟩).run_bind]
  refine hlaunch.run_bind.trans ?_
  cases i.verdict ending with
  | ok successful => rfl
  | error fault => rfl

private theorem run_record {t : P} {w : Workspace} {data : Option CoverageData}
    {successful : Bool} :
    w.coverageData = none →
    (i.perform test).run.run s = (.ok successful, ⟨t, w.leave data⟩) →
    (i.record test).run.run s = match data with
      | none => (.ok (.make test.name (.instant successful) []), ⟨t, w⟩)
      | some .unreadable => (.error .unexpected, ⟨t, w.leave data⟩)
      | some (.measured files) =>
        (.ok (.make test.name (.instant successful) (w.linesOf files)), ⟨t, w.withoutData⟩) := by
  intro hw hperform
  rw [record, Returns.run_bind hperform]
  obtain ⟨directory, identity, files, before⟩ := w
  obtain rfl : before = none := hw
  cases data with
  | none => rfl
  | some data =>
    cases data with
    | measured files => rfl
    | unreadable => rfl

/-- Each test starts one process. What is recorded of it came of that process, which shows that the
tools are missing if nothing is recorded. -/
theorem runTest_attests (i : Interpreter) (test : TestCase) {w : Workspace}
    (hs : s.workspace.withoutData = w) :
    ∃ l : Launch, l.Leads s.processes ((i.runTest test).run.run s).2.processes ∧
      l.command = i.testCommand w test ∧ l.workspace = w ∧
      ((i.runTest test).run.run s).2.workspace.withoutData = w ∧
      Meets (fun c => ¬ l.LacksTools ∧ c.test = test.name ∧ l.Attests c)
        (fun e => l.LacksTools ∧ ∃ reason, e = .unavailable reason)
        ((i.runTest test).run.run s).1 := by
  subst hs
  obtain ⟨l, t, hleads, hcommand, hworkspace, hperform⟩ := exists_launch i test s
  have hverdict := l.meets_verdict i
  refine ⟨l, ?_⟩
  cases hv : i.verdict l.ending with
  | error fault =>
    rw [hv] at hperform hverdict
    have hrecord : (i.record test).run.run s = _ := run_bind_error hperform
    rw [run_runTest, hrecord]
    cases fault with
    | unavailable reason => exact ⟨hleads, hcommand, hworkspace, rfl, hverdict, reason, rfl⟩
    | unexpected =>
      exact ⟨hleads, hcommand, hworkspace, rfl, hverdict.1, rfl, l.attests_of_goesWrong hverdict.2⟩
  | ok successful =>
    rw [hv] at hperform hverdict
    obtain ⟨htools, hstarted, hsuccessful⟩ := hverdict
    have hfine : l.leaves ≠ some .unreadable → ¬ l.GoesWrong := by
      rintro hreadable (⟨fault, h⟩ | h)
      · exact hstarted fault h
      · exact hreadable h
    have hrecord := run_record rfl hperform
    rw [run_runTest, hrecord]
    cases hleaves : l.leaves with
    | none =>
      refine ⟨hleads, hcommand, hworkspace, rfl, htools, rfl, ?_⟩
      exact l.attests_of_not_goesWrong (hfine (by simp [hleaves])) hsuccessful (by simp [hleaves])
    | some data =>
      cases data with
      | unreadable =>
        exact ⟨hleads, hcommand, hworkspace, rfl, htools, rfl, l.attests_of_goesWrong (.inr hleaves)⟩
      | measured files =>
        refine ⟨hleads, hcommand, hworkspace, rfl, htools, rfl, ?_⟩
        refine l.attests_of_not_goesWrong (hfine (by simp [hleaves])) hsuccessful fun line => ?_
        rw [hworkspace, hleaves]
        constructor
        · exact fun hline => ⟨files, rfl, hline⟩
        · rintro ⟨files', hfiles, hline⟩
          cases hfiles
          exact hline

/-- The processes that have run tests in a workspace, with what was recorded of them. -/
structure Recorded (i : Interpreter) (w : Workspace) (tests : List TestCase) (ls : List Launch)
    (cs : List TestCoverage) : Prop where
  commands : ls.map Launch.command = tests.map (i.testCommand w)
  names : cs.map TestCoverage.test = tests.map TestCase.name
  tools : ∀ l ∈ ls, ¬ l.LacksTools
  attested : ∀ e ∈ tests.zip ls, ∃ c ∈ cs, c.test = e.1.name ∧ e.2.Attests c

/-- The last of the processes shows that the tools are missing, and no test after it has run. -/
structure Broken (i : Interpreter) (w : Workspace) (tests : List TestCase) (ls : List Launch)
    (e : ToolchainError) : Prop where
  commands : ls.map Launch.command <+: tests.map (i.testCommand w)
  unavailable : ∃ reason, e = .unavailable reason
  tools : ∃ before l, ls = before ++ [l] ∧ l.LacksTools ∧ ∀ l' ∈ before, ¬ l'.LacksTools

private theorem mapM_runTest (i : Interpreter) (tests : List TestCase) {w : Workspace}
    (hs : s.workspace.withoutData = w) :
    ∃ ls : List Launch, Launched s.processes ls ((tests.mapM i.runTest).run.run s).2.processes ∧
      (∀ l ∈ ls, l.workspace = w) ∧
      Meets (i.Recorded w tests ls) (i.Broken w tests ls)
        ((tests.mapM i.runTest).run.run s).1 := by
  induction tests generalizing s with
  | nil =>
    rw [List.mapM_nil]
    exact ⟨[], .none, by simp, rfl, rfl, by simp, by simp⟩
  | cons test tests ih =>
    obtain ⟨l, hleads, hcommand, hworkspace, hs', hmeets⟩ := runTest_attests i test hs
    rw [List.mapM_cons]
    rcases hrun : (i.runTest test).run.run s with ⟨e | c, s'⟩
    · rw [hrun] at hleads hmeets
      rw [run_bind_error hrun]
      exact ⟨[l], .next hleads .none, by simpa using hworkspace, by simp [hcommand], hmeets.2,
        [], l, rfl, hmeets.1, by simp⟩
    · rw [hrun] at hleads hmeets hs'
      obtain ⟨htools, hname, hattests⟩ := hmeets
      obtain ⟨ls, hlaunched, hworkspaces, hrest⟩ := ih hs'
      rw [Returns.run_bind hrun]
      refine ⟨l :: ls, ?_⟩
      have hall : ∀ l' ∈ l :: ls, l'.workspace = w :=
        List.forall_mem_cons.mpr ⟨hworkspace, hworkspaces⟩
      rcases hruns : (tests.mapM i.runTest).run.run s' with ⟨e | cs, s''⟩
      · rw [hruns] at hlaunched hrest
        rw [run_bind_error hruns]
        obtain ⟨hcommands, hreason, before, last, rfl, hlast, hbefore⟩ := hrest
        refine ⟨.next hleads hlaunched, hall, ?_, hreason, l :: before, last, rfl, hlast,
          List.forall_mem_cons.mpr ⟨htools, hbefore⟩⟩
        rw [List.map_cons, List.map_cons, hcommand]
        exact (List.prefix_cons_inj _).mpr hcommands
      · rw [hruns] at hlaunched hrest
        rw [Returns.run_bind hruns]
        obtain ⟨hcommands, hnames, hfine, hrecords⟩ := hrest
        refine ⟨.next hleads hlaunched, hall, ?_, ?_, List.forall_mem_cons.mpr ⟨htools, hfine⟩, ?_⟩
        · rw [List.map_cons, List.map_cons, hcommand, hcommands]
        · rw [List.map_cons, List.map_cons, hname, hnames]
        · rw [List.zip_cons_cons, List.forall_mem_cons]
          refine ⟨⟨c, List.mem_cons_self, hname, hattests⟩, fun e he => ?_⟩
          obtain ⟨c', hc', hrecord⟩ := hrecords e he
          exact ⟨c', List.mem_cons_of_mem c hc', hrecord⟩

end Interpreter

/-! ## Suites -/

private theorem TestSuite.nodup_names {filename : String} {lines : List String} {suite : TestSuite}
    (h : ofLines filename lines = .ok suite) : suite.names.Nodup := by
  have hdistinct : ∀ tests : List TestCase, ((distinct tests).map TestCase.name).Nodup := by
    intro tests
    induction tests with
    | nil => exact .nil
    | cons test tests ih =>
      rw [distinct, List.map_cons, List.nodup_cons]
      refine ⟨?_, ih.sublist (List.filter_sublist.map _)⟩
      simp
  rw [ofLines] at h
  split at h
  · obtain rfl := Except.ok.inj h
    exact hdistinct _
  · cases h
  · cases h

namespace Interpreter

variable {i : Interpreter} {s : Running P}

/-- What the coverage of a suite has come from. -/
structure Collected (i : Interpreter) (w : Workspace) (suite : TestSuite) (ls : List Launch)
    (m : CoverageMap) : Prop where
  /-- One process was started for each test, in the order of the suite. -/
  commands : ls.map Launch.command = suite.tests.map (i.testCommand w)
  tools : ∀ l ∈ ls, ¬ l.LacksTools
  names : m.names.Perm suite.names
  /-- Each test has what came of its own process. -/
  attested : ∀ e ∈ suite.tests.zip ls, ∃ c, (e.1.name, c) ∈ m.entries ∧ e.2.Attests c

/-- Whatever becomes of the processes, collecting ends. Either the coverage has just the tests of the
suite, each with what its own process has shown, or a process has shown that the tools are missing. -/
theorem collect_attributes {filename : String} {lines : List String} {suite : TestSuite}
    (hsuite : TestSuite.ofLines filename lines = .ok suite) (i : Interpreter) (s : Running P) :
    ∃ ls : List Launch, Launched s.processes ls ((i.collect suite).run.run s).2.processes ∧
      (∀ l ∈ ls, l.workspace = s.workspace.withoutData) ∧
      Meets (i.Collected s.workspace suite ls) (i.Broken s.workspace suite.tests ls)
        ((i.collect suite).run.run s).1 := by
  obtain ⟨ls, hlaunched, hworkspaces, hmeets⟩ := mapM_runTest i suite.tests (s := s) rfl
  refine ⟨ls, ?_⟩
  rw [collect]
  rcases hrun : (suite.tests.mapM i.runTest).run.run s with ⟨e | cs, s'⟩
  · rw [hrun] at hlaunched hmeets
    rw [run_bind_error hrun]
    exact ⟨hlaunched, hworkspaces, hmeets.commands, hmeets.unavailable, hmeets.tools⟩
  · rw [hrun] at hlaunched hmeets
    rw [Returns.run_bind hrun]
    have hnodup : (cs.map TestCoverage.test).Nodup := by
      rw [hmeets.names]
      exact TestSuite.nodup_names hsuite
    refine ⟨hlaunched, hworkspaces, hmeets.commands, hmeets.tools, ?_, fun e he => ?_⟩
    · refine (List.perm_ext_iff_of_nodup (CoverageMap.nodup_names_ofList cs)
        (TestSuite.nodup_names hsuite)).mpr fun name => ?_
      rw [CoverageMap.mem_names_ofList, hmeets.names]
      rfl
    · obtain ⟨c, hc, hname, hattests⟩ := hmeets.attested e he
      have hkeys : ((cs.map fun c => (c.test, c)).map Prod.fst).Nodup := by
        rw [List.map_map]
        exact hnodup
      refine ⟨c, ?_, hattests⟩
      rw [← hname, CoverageMap.ofList, Sorted.mem_ofEntries, Entries.atLast_iff_mem hkeys]
      exact List.mem_map_of_mem hc

end Interpreter

namespace TroubledTests

def suite : TestSuite :=
  ⟨"t.py", ["def test_a(): pass", "def test_b(): pass", "def test_c(): pass"],
    [⟨"t.py", none, "test_a"⟩, ⟨"t.py", none, "test_b"⟩, ⟨"t.py", none, "test_c"⟩]⟩

def interpreter : Interpreter :=
  ⟨"python", .ofInt 1, "/tmp/w"⟩

/-- The first test cannot be started, the data of the second one cannot be read, and the third one
leaves no data. Data was there before. -/
def running : Running ProcessSimulation where
  processes := ⟨.silent,
    [("t.py::test_a", ⟨some (.measured [("prog.py", [1])]), .refused .permission⟩),
      ("t.py::test_b", ⟨some .unreadable, .exited 0 ""⟩)], []⟩
  workspace := ⟨"/tmp/w", "prog", .empty, some (.measured [("prog.py", [7])])⟩

private theorem parsed : TestSuite.ofLines suite.filename suite.lines = .ok suite := by
  decide +kernel

end TroubledTests

namespace Interpreter

open TroubledTests in
/-- Only the test passes whose process ended well, and no line is recorded for it. -/
theorem collect_attributes_of_trouble :
    ∃ ls m s', Returns (interpreter.collect suite) running m s' ∧ ls.length = 3 ∧
      interpreter.Collected running.workspace suite ls m ∧
      m.tests.map (fun c => (c.test, c.successful, c.lines)) =
        [("t.py::test_a", false, []), ("t.py::test_b", false, []), ("t.py::test_c", true, [])] := by
  obtain ⟨ls, -, -, hmeets⟩ := collect_attributes parsed interpreter running
  have hends : ((interpreter.collect suite).run.run running).1.toBool = true := by
    decide +kernel
  obtain ⟨m, s', hreturns⟩ := exists_returns hends
  have hresult : ((interpreter.collect suite).run.run running).1.toOption.map
      (fun m => m.tests.map fun c => (c.test, c.successful, c.lines)) =
        some [("t.py::test_a", false, []), ("t.py::test_b", false, []),
          ("t.py::test_c", true, [])] := by
    decide +kernel
  rw [show _ = (Except.ok m, s') from hreturns] at hmeets hresult
  refine ⟨ls, m, s', hreturns, ?_, hmeets, Option.some.inj hresult⟩
  simpa [suite] using congrArg List.length hmeets.commands

end Interpreter

end GeneticRepair
