import GeneticRepair.Proofs.Collection.RecentlyUsed
import GeneticRepair.Proofs.Outcome
import GeneticRepair.Proofs.Toolchain.Contract
import GeneticRepair.Toolchain.Cached

/-!
# What cached toolchains answer

Everything that a cached toolchain remembers was answered by the inner one: an outcome of a build by
a compilation or by a test run, a test run for some suite whose file has the name it is remembered
under. So it adds nothing to the contract of the inner toolchain, except that it may answer for
another suite of that name.
-/

namespace GeneticRepair

namespace Contract

variable {T : Type} [Toolchain T] (k : Contract T) (asked : Program → TestSuite → Prop)

/-- The inner toolchain may say this of the build of a program, which it may do in a test run that
was asked for. -/
def Builds (p : Program) (outcome : BuildOutcome) : Prop :=
  k.build p (.ok outcome) ∨
    ∃ suite result, asked p suite ∧ k.testRun p suite (.ok result) ∧ result.build = outcome

/-- The inner toolchain may give this result for a suite in a file of this name, which was asked
for. -/
def Tests (p : Program) (filename : String) (result : TestRun) : Prop :=
  ∃ suite, suite.filename = filename ∧ asked p suite ∧ k.testRun p suite (.ok result)

variable {k} {asked} {p : Program}

private theorem Tests.builds {filename : String} {result : TestRun}
    (h : k.Tests asked p filename result) :
    k.Builds asked p result.build := by
  obtain ⟨suite, -, hsuite, hrun⟩ := h
  exact .inr ⟨suite, result, hsuite, hrun, rfl⟩

end Contract

namespace Cached

variable {T : Type} {s : Cached T} {p : Program}

private theorem run_within {α : Type} {act : ExceptT ToolchainError (StateM T) α}
    {r : Except ToolchainError α} {inner : T} (h : act.run.run s.inner = (r, inner)) :
    (within act).run.run s = (r, { s with inner }) := by
  show ((act.run.run s.inner).1, { s with inner := (act.run.run s.inner).2 }) = _
  rw [h]

theorem run_within_bind {α β : Type} {act : ExceptT ToolchainError (StateM T) α}
    {f : α → ExceptT ToolchainError (StateM (Cached T)) β} {a : α} {inner : T}
    (h : act.run.run s.inner = (.ok a, inner)) :
    (within act >>= f).run.run s = (f a).run.run { s with inner } := by
  rw [ExceptT.run_bind, StateT.run_bind, run_within h]
  rfl

theorem run_within_bind_error {α β : Type} {act : ExceptT ToolchainError (StateM T) α}
    {f : α → ExceptT ToolchainError (StateM (Cached T)) β} {e : ToolchainError} {inner : T}
    (h : act.run.run s.inner = (.error e, inner)) :
    (within act >>= f).run.run s = (.error e, { s with inner }) := by
  rw [ExceptT.run_bind, StateT.run_bind, run_within h]
  rfl

/-! ## What is remembered -/

/-- Whatever is remembered has these properties. -/
structure Remembers (built : Program → BuildOutcome → Prop)
    (tested : Program → String → TestRun → Prop) (s : Cached T) : Prop where
  builds : ∀ p outcome, (p, outcome) ∈ s.builds.entries → built p outcome
  runs : ∀ p filename result, ((p, filename), result) ∈ s.runs.entries → tested p filename result

variable {built : Program → BuildOutcome → Prop} {tested : Program → String → TestRun → Prop}

theorem remembers_of_new? {inner : T} {capacity : Quantity} (h : new? inner capacity = some s) :
    s.inner = inner ∧ Remembers built tested s := by
  unfold new? at h
  split at h
  · exact absurd h (by simp)
  · obtain rfl := Option.some.inj h
    refine ⟨rfl, fun p outcome hmem => ?_, fun p filename result hmem => ?_⟩
    · exact absurd hmem List.not_mem_nil
    · exact absurd hmem List.not_mem_nil

theorem Remembers.setInner (h : Remembers built tested s) (inner : T) :
    Remembers built tested { s with inner } :=
  ⟨h.builds, h.runs⟩

theorem Remembers.putBuild {outcome : BuildOutcome} (h : Remembers built tested s)
    (houtcome : built p outcome) :
    Remembers built tested { s with builds := s.builds.put p outcome } := by
  refine ⟨fun q outcome' hmem => ?_, h.runs⟩
  rcases RecentlyUsed.mem_of_mem_put hmem with heq | hold
  · cases heq
    exact houtcome
  · exact h.builds q outcome' hold

theorem Remembers.putRun {filename : String} {result : TestRun} (h : Remembers built tested s)
    (hbuild : built p result.build) (hresult : tested p filename result) :
    Remembers built tested { s with
      runs := s.runs.put (p, filename) result
      builds := s.builds.put p result.build } := by
  refine ⟨(h.putBuild hbuild).builds, fun q filename' result' hmem => ?_⟩
  rcases RecentlyUsed.mem_of_mem_put hmem with heq | hold
  · cases heq
    exact hresult
  · exact h.runs q filename' result' hold

theorem Remembers.recallBuild (h : Remembers built tested s) (p : Program) :
    (∃ outcome s', (recallBuild p).run.run s = (.ok (some outcome), s') ∧ built p outcome ∧
      s'.inner = s.inner ∧ Remembers built tested s') ∨
    (Cached.recallBuild p).run.run s = (.ok none, s) := by
  rcases RecentlyUsed.get_cases s.builds p with ⟨outcome, builds, hget, hmem, hold⟩ | hget
  · refine .inl ⟨outcome, { s with builds }, ?_, h.builds p outcome hmem, rfl, ?_, h.runs⟩
    · show (Except.ok (s.builds.get p).1, { s with builds := (s.builds.get p).2 }) = _
      rw [hget]
    · intro q outcome' hmem'
      exact h.builds q outcome' (hold _ hmem')
  · refine .inr ?_
    show (Except.ok (s.builds.get p).1, { s with builds := (s.builds.get p).2 }) = _
    rw [hget]

theorem Remembers.recallRun (h : Remembers built tested s) (p : Program) (filename : String) :
    (∃ result s', (recallRun (p, filename)).run.run s = (.ok (some result), s') ∧
      tested p filename result ∧ s'.inner = s.inner ∧ Remembers built tested s') ∨
    (Cached.recallRun (p, filename)).run.run s = (.ok none, s) := by
  rcases RecentlyUsed.get_cases s.runs (p, filename) with ⟨result, runs, hget, hmem, hold⟩ | hget
  · refine .inl ⟨result, { s with runs }, ?_, h.runs p filename result hmem, rfl, h.builds, ?_⟩
    · show (Except.ok (s.runs.get (p, filename)).1,
        { s with runs := (s.runs.get (p, filename)).2 }) = _
      rw [hget]
    · intro q filename' result' hmem'
      exact h.runs q filename' result' (hold _ hmem')
  · refine .inr ?_
    show (Except.ok (s.runs.get (p, filename)).1,
      { s with runs := (s.runs.get (p, filename)).2 }) = _
    rw [hget]

variable [Toolchain T] {k : Contract T} {asked : Program → TestSuite → Prop}

/-- Whatever is remembered was answered by the inner toolchain. -/
structure Faithful (k : Contract T) (asked : Program → TestSuite → Prop) (s : Cached T) :
    Prop where
  inner : k.valid s.inner
  remembers : Remembers (k.Builds asked) (k.Tests asked) s

theorem faithful_of_new? {inner : T} {capacity : Quantity} (hinner : k.valid inner)
    (h : new? inner capacity = some s) : Faithful k asked s := by
  obtain ⟨rfl, hremembers⟩ := remembers_of_new? h
  exact ⟨hinner, hremembers⟩

/-! ## The operations -/

/-- What a compilation answers is said by the inner toolchain; an error is its error, and nothing
that is remembered changes. -/
theorem Faithful.compile (h : Faithful k asked s) (p : Program) :
    ∃ r s', (Cached.compile p).run.run s = (r, s') ∧ Faithful k asked s' ∧
      Meets (k.Builds asked p)
        (fun e => k.build p (.error e) ∧ s'.builds = s.builds ∧ s'.runs = s.runs) r := by
  rcases h.remembers.recallBuild p with ⟨outcome, s', hrecall, houtcome, hs', hremembers⟩ | hrecall
  · refine ⟨.ok outcome, s', ?_, ⟨hs' ▸ h.inner, hremembers⟩, houtcome⟩
    rw [Cached.compile, ExceptT.run_bind, StateT.run_bind, hrecall]
    rfl
  · obtain ⟨hanswer, hinner⟩ := k.compile_answers p s.inner h.inner
    rw [Cached.compile, ExceptT.run_bind, StateT.run_bind, hrecall]
    rcases hrun : (Toolchain.compile p).run.run s.inner with ⟨r, inner⟩
    rw [hrun] at hanswer hinner
    cases r with
    | ok outcome =>
      have houtcome : k.Builds asked p outcome := .inl hanswer
      refine ⟨_, _, run_within_bind hrun, ?_, houtcome⟩
      exact ⟨hinner, (h.remembers.setInner inner).putBuild houtcome⟩
    | error e =>
      refine ⟨_, _, run_within_bind_error hrun, ?_, hanswer, rfl, rfl⟩
      exact ⟨hinner, h.remembers.setInner inner⟩

private theorem Faithful.runTests (h : Faithful k asked s) {suite : TestSuite}
    (hasked : asked p suite) :
    ∃ r s', (Cached.runTests p suite).run.run s = (r, s') ∧ Faithful k asked s' ∧
      Meets (k.Tests asked p suite.filename)
        (fun e => k.testRun p suite (.error e) ∧ s'.builds = s.builds ∧ s'.runs = s.runs) r := by
  rcases h.remembers.recallRun p suite.filename with
    ⟨result, s', hrecall, hresult, hs', hremembers⟩ | hrecall
  · refine ⟨.ok result, s', ?_, ⟨hs' ▸ h.inner, hremembers⟩, hresult⟩
    rw [Cached.runTests, ExceptT.run_bind, StateT.run_bind, hrecall]
    rfl
  · obtain ⟨hanswer, hinner⟩ := k.runTests_answers p suite s.inner h.inner
    rw [Cached.runTests, ExceptT.run_bind, StateT.run_bind, hrecall]
    rcases hrun : (Toolchain.runTests p suite).run.run s.inner with ⟨r, inner⟩
    rw [hrun] at hanswer hinner
    cases r with
    | ok result =>
      have hresult : k.Tests asked p suite.filename result := ⟨suite, rfl, hasked, hanswer⟩
      refine ⟨_, _, run_within_bind hrun, ?_, hresult⟩
      exact ⟨hinner, (h.remembers.setInner inner).putRun hresult.builds hresult⟩
    | error e =>
      refine ⟨_, _, run_within_bind_error hrun, ?_, hanswer, rfl, rfl⟩
      exact ⟨hinner, h.remembers.setInner inner⟩

/-! ## Sequences of calls -/

/-- What a reply that is no error says is said by the inner toolchain. -/
def Vouches (k : Contract T) (asked : Program → TestSuite → Prop) : Call → Reply → Prop
  | .compile p, .built outcome => k.Builds asked p outcome
  | .runTests p suite, .tested result => k.Tests asked p suite.filename result
  | _, _ => False

theorem Faithful.perform (h : Faithful k asked s) (call : Call)
    (hasked : ∀ p suite, call = .runTests p suite → asked p suite) :
    Faithful k asked (Call.next s call) ∧
      Meets (Vouches k asked call)
        (fun e => k.Allows call (.error e) ∧ (Call.next s call).builds = s.builds ∧
          (Call.next s call).runs = s.runs) (call.reply s) := by
  cases call with
  | compile p =>
    obtain ⟨r, s', hrun, hs', hr⟩ := h.compile p
    have hcompile : (Toolchain.compile p).run.run s = (r, s') := hrun
    rw [Call.next_compile, Call.reply_compile, hcompile]
    cases r with
    | ok outcome => exact ⟨hs', hr⟩
    | error e => exact ⟨hs', ⟨_, hr.1, rfl⟩, hr.2⟩
  | runTests p suite =>
    obtain ⟨r, s', hrun, hs', hr⟩ := h.runTests (hasked p suite rfl)
    have htests : (Toolchain.runTests p suite).run.run s = (r, s') := hrun
    rw [Call.next_runTests, Call.reply_runTests, htests]
    cases r with
    | ok result => exact ⟨hs', hr⟩
    | error e => exact ⟨hs', ⟨_, hr.1, rfl⟩, hr.2⟩

theorem Faithful.after (h : Faithful k asked s) {calls : List Call}
    (hasked : ∀ p suite, Call.Asks calls p suite → asked p suite) :
    Faithful k asked (Call.after s calls) := by
  induction calls generalizing s with
  | nil => exact h
  | cons call calls ih =>
    have hcall : ∀ p suite, call = .runTests p suite → asked p suite := by
      rintro p suite rfl
      exact hasked p suite List.mem_cons_self
    have hcalls : ∀ p suite, Call.Asks calls p suite → asked p suite := by
      intro p suite hmem
      exact hasked p suite (List.mem_cons_of_mem call hmem)
    exact ih (h.perform call hcall).1 hcalls

end Cached

end GeneticRepair
