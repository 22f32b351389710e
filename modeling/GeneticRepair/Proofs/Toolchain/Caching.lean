import GeneticRepair.Proofs.Toolchain.Cached
import GeneticRepair.Proofs.Toolchain.Simulation

/-!
# What caching changes

Nothing, if the inner toolchain is deterministic and consistent and no two suites are in files of
one name. Suites in files of one name are taken for each other: the tests in an answer are those of
a suite that was run against the same program under that name.
-/

namespace GeneticRepair

namespace Cached

variable {T : Type} [Toolchain T] {k : Contract T} {asked : Program → TestSuite → Prop}
  {p : Program}

private theorem build_of_builds (hdet : k.Deterministic) (hconsistent : k.Consistent)
    {outcome : BuildOutcome} {r : Except ToolchainError BuildOutcome}
    (h : k.Builds asked p outcome) (hr : k.build p r) : r = .ok outcome := by
  rcases h with hbuild | ⟨suite, result, -, hrun, rfl⟩
  · exact hdet.build p r _ hr hbuild
  · cases r with
    | ok outcome => rw [hconsistent.build_eq p suite outcome result hr hrun]
    | error e =>
      obtain ⟨e', herror⟩ := (hconsistent.fails_iff p suite).mp ⟨e, hr⟩
      exact absurd (hdet.testRun p suite _ _ hrun herror) (by simp)

private theorem testRun_of_tests (hdet : k.Deterministic) {suite : TestSuite} {result : TestRun}
    {r : Except ToolchainError TestRun}
    (hsuites : ∀ suite', asked p suite' → suite'.filename = suite.filename → suite' = suite)
    (h : k.Tests asked p suite.filename result) (hr : k.testRun p suite r) : r = .ok result := by
  obtain ⟨suite', hname, hasked, hrun⟩ := h
  obtain rfl := hsuites suite' hasked hname
  exact hdet.testRun p suite' r _ hr hrun

private theorem reply_eq_of_vouches (hdet : k.Deterministic) (hconsistent : k.Consistent)
    {call : Call}
    {reply : Reply} {r : Except ToolchainError Reply}
    (hsuites : ∀ p suite suite', call = .runTests p suite → asked p suite' →
      suite'.filename = suite.filename → suite' = suite)
    (h : Vouches k asked call reply) (hr : k.Allows call r) : r = .ok reply := by
  cases call with
  | compile p =>
    obtain ⟨r, hr, rfl⟩ := hr
    cases reply with
    | built outcome => rw [build_of_builds hdet hconsistent h hr, Except.map]
    | tested result => exact absurd h id
  | runTests p suite =>
    obtain ⟨r, hr, rfl⟩ := hr
    cases reply with
    | built outcome => exact absurd h id
    | tested result =>
      rw [testRun_of_tests hdet (fun suite' => hsuites p suite suite' rfl) h hr, Except.map]

/-- Every call of a sequence has the reply that the inner toolchain gives in any state, and an error
leaves everything that is remembered as it was. -/
theorem replies_of_inner (hdet : k.Deterministic) (hconsistent : k.Consistent)
    {inner : T} (hinner : k.valid inner) {capacity : Quantity} {cache : Cached T}
    (hcache : new? inner capacity = some cache) {calls : List Call} (hsuites : Call.TellApart calls)
    {before rest : List Call} {call : Call} (hcalls : calls = before ++ call :: rest) :
    (∀ t, k.valid t → call.reply (Call.after cache before) = call.reply t) ∧
      ∀ e, call.reply (Call.after cache before) = .error e →
        (Call.next (Call.after cache before) call).builds = (Call.after cache before).builds ∧
        (Call.next (Call.after cache before) call).runs = (Call.after cache before).runs := by
  have hfaithful : Faithful k (Call.Asks calls) (Call.after cache before) := by
    refine (faithful_of_new? hinner hcache).after fun p suite hasked => ?_
    rw [Call.Asks, hcalls]
    exact List.mem_append_left _ hasked
  have hcall : ∀ p suite, call = .runTests p suite → Call.Asks calls p suite := by
    rintro p suite rfl
    simp [Call.Asks, hcalls]
  have hreply := (hfaithful.perform call hcall).2
  constructor
  · intro t ht
    have hallowed := Contract.allows_reply ht call
    cases hr : call.reply (Call.after cache before) with
    | ok reply =>
      rw [hr] at hreply
      refine (reply_eq_of_vouches hdet hconsistent ?_ hreply hallowed).symm
      intro p suite suite' heq hasked hname
      exact hsuites p p suite' suite hasked (hcall p suite heq) hname
    | error e =>
      rw [hr] at hreply
      exact hdet.reply_eq hreply.1 hallowed
  · intro e he
    rw [he] at hreply
    exact hreply.2

/-! A cache with room for one outcome, and a program that cannot be compiled -/

namespace Cramped

def rules : SimulationRules :=
  ⟨⟨["boom"], ["bad"]⟩, ⟨["boom"], ["bad"]⟩, [], []⟩

def cache : Cached Simulation :=
  ofCapacity (.new rules) (.ofInt 1)

def before : List Call :=
  [.runTests ⟨"prog", ["x = 1"]⟩ ⟨"t.py", [], [⟨"t.py", none, "test_a"⟩]⟩]

def call : Call :=
  .compile ⟨"prog", ["boom"]⟩

private theorem tellApart : Call.TellApart (before ++ [call]) := by
  intro p q suite suite' h h' _
  simp only [Call.Asks, before, call, List.cons_append, List.nil_append, List.mem_cons,
    List.not_mem_nil, or_false, Call.runTests.injEq, reduceCtorEq] at h h'
  rw [h.2, h'.2]

theorem replies_of_scripted :
    call.reply (Call.after cache before) = call.reply (Simulation.new rules) ∧
      call.reply (Simulation.new rules) = .error (.system (.general "scripted")) ∧
      (Call.next (Call.after cache before) call).builds.entries.length = 1 := by
  have hinner : (Simulation.contract rules).valid (.new rules) := rfl
  have hcache : new? (.new rules) (.ofInt 1) = some cache := rfl
  have hcalls : before ++ [call] = before ++ call :: [] := rfl
  have hreplies := replies_of_inner (Simulation.deterministic_contract rules)
    (Simulation.consistent_contract rfl) hinner hcache tellApart hcalls
  refine ⟨hreplies.1 (Simulation.new rules) rfl, rfl, ?_⟩
  rw [(hreplies.2 _ rfl).1]
  rfl

end Cramped

/-- The tests in an answer are those of a suite in a file of the same name that has been run against
the program, so of the suite in question if there is no other. -/
theorem names_of_answer
    (hnames : ∀ p suite result, k.testRun p suite (.ok result) → result.compiled →
      ∀ name, name ∈ result.coverage.names ↔ name ∈ suite.names)
    {inner : T} (hinner : k.valid inner) {capacity : Quantity} {cache : Cached T}
    (hcache : new? inner capacity = some cache) {before : List Call} {suite : TestSuite}
    {result : TestRun}
    (hreply : (Call.runTests p suite).reply (Call.after cache before) = .ok (.tested result))
    (hcompiled : result.compiled) :
    (∃ suite', suite'.filename = suite.filename ∧ (suite' = suite ∨ Call.Asks before p suite') ∧
        ∀ name, name ∈ result.coverage.names ↔ name ∈ suite'.names) ∧
      ((∀ suite', Call.Asks before p suite' → suite'.filename = suite.filename → suite' = suite) →
        ∀ name, name ∈ result.coverage.names ↔ name ∈ suite.names) := by
  have hfaithful : Faithful k (Call.Asks (.runTests p suite :: before))
      (Call.after cache before) :=
    (faithful_of_new? hinner hcache).after fun q suite' hasked => List.mem_cons_of_mem _ hasked
  have hcall : ∀ q suite', Call.runTests p suite = .runTests q suite' →
      Call.Asks (.runTests p suite :: before) q suite' := by
    rintro q suite' heq
    simp [Call.Asks, heq]
  have hvouches := (hfaithful.perform (.runTests p suite) hcall).2
  rw [hreply] at hvouches
  obtain ⟨suite', hname, hasked, hrun⟩ := hvouches
  have hsuite : suite' = suite ∨ Call.Asks before p suite' := by
    simpa [Call.Asks] using hasked
  refine ⟨⟨suite', hname, hsuite, hnames p suite' result hrun hcompiled⟩, fun hother => ?_⟩
  have heq : suite' = suite := hsuite.elim id fun hbefore => hother suite' hbefore hname
  rw [← heq]
  exact hnames p suite' result hrun hcompiled

end Cached

/-! ## Two suites in files of one name -/

namespace Namesakes

def rules : SimulationRules :=
  ⟨⟨[], []⟩, ⟨[], []⟩, [], []⟩

def program : Program :=
  ⟨"prog", ["x = 1"]⟩

def suite (function : String) : TestSuite :=
  ⟨"test_a.py", ["def " ++ function ++ "():", "    pass"], [⟨"test_a.py", none, function⟩]⟩

def cache : Cached Simulation :=
  .ofCapacity (.new rules) (.ofInt 4)

/-- The first suite is taken for the second, though the inner toolchain reports the tests of the
suite that it is given. -/
theorem answers_for_other_suite :
    (∀ p suite result, (Simulation.contract rules).testRun p suite (.ok result) →
        result.compiled → ∀ name, name ∈ result.coverage.names ↔ name ∈ suite.names) ∧
      (Simulation.contract rules).valid (.new rules) ∧
      Cached.new? (.new rules) (.ofInt 4) = some cache ∧
      ∃ result, (Call.runTests program (suite "test_two")).reply
          (Call.after cache [.runTests program (suite "test_one")]) = .ok (.tested result) ∧
        result.compiled ∧
        ¬ ∀ name, name ∈ result.coverage.names ↔ name ∈ (suite "test_two").names := by
  refine ⟨fun p suite result h hcompiled => Simulation.names_tested h hcompiled, rfl, rfl,
    _, rfl, rfl, fun h => ?_⟩
  have hone := (h "test_a.py::test_one").mp (by decide)
  exact absurd hone (by decide)

def elsewhere : TestSuite :=
  ⟨"test_b.py", ["def test_three():", "    pass"], [⟨"test_b.py", none, "test_three"⟩]⟩

def changed : Program :=
  ⟨"prog", ["x = 2"]⟩

def narrow : Cached Simulation :=
  .ofCapacity (.new rules) (.ofInt 1)

/-- The suites take turns, and the second one runs against another program only. -/
def turns : List Call :=
  [.runTests program (suite "test_one"), .runTests program elsewhere,
    .runTests changed (suite "test_two"), .runTests program (suite "test_one"), .compile changed,
    .runTests program elsewhere]

/-- Of the runs all but the last one are forgotten, and the first suite is answered for by itself. -/
theorem names_after_evictions :
    (Call.after narrow turns).runs.entries.length = 1 ∧ (Call.after narrow turns).inner.runs = 5 ∧
      ∃ result,
        (Call.runTests program (suite "test_one")).reply (Call.after narrow turns) =
          .ok (.tested result) ∧
        ∀ name, name ∈ result.coverage.names ↔ name ∈ (suite "test_one").names := by
  have hinner : (Simulation.contract rules).valid (.new rules) := rfl
  have hcache : Cached.new? (.new rules) (.ofInt 1) = some narrow := rfl
  have hreply : (Call.runTests program (suite "test_one")).reply (Call.after narrow turns) =
      .ok (.tested ⟨⟨true, .float 0.0, ""⟩, Simulation.run rules program (suite "test_one")⟩) := rfl
  have hnames := Cached.names_of_answer
    (fun p suite result h hcompiled => Simulation.names_tested h hcompiled) hinner hcache hreply rfl
  refine ⟨rfl, rfl, _, hreply, hnames.2 ?_⟩
  intro suite' hasked hname
  simp only [Call.Asks, turns, List.mem_cons, List.not_mem_nil, Call.runTests.injEq, reduceCtorEq,
    or_false, false_or] at hasked
  rcases hasked with ⟨-, rfl⟩ | ⟨-, rfl⟩ | ⟨hp, -⟩ | ⟨-, rfl⟩ | ⟨-, rfl⟩
  · rfl
  · exact absurd hname (by decide)
  · exact absurd hp (by decide)
  · rfl
  · exact absurd hname (by decide)

end Namesakes

end GeneticRepair
