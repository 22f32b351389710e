import GeneticRepair.Toolchain.Basic

/-!
# Contracts of toolchains

A contract says which answers a toolchain may give to each request, in states that it does not
leave. A toolchain is used by calling its two operations in some order; whoever calls it goes on
after an operation that failed.
-/

namespace GeneticRepair

structure Contract (T : Type) [Toolchain T] where
  /-- The states in which the toolchain gives these answers, and which it does not leave. -/
  valid : T → Prop
  build : Program → Except ToolchainError BuildOutcome → Prop
  testRun : Program → TestSuite → Except ToolchainError TestRun → Prop
  compile_answers : ∀ p t, valid t →
    build p ((Toolchain.compile p).run.run t).1 ∧ valid ((Toolchain.compile p).run.run t).2
  runTests_answers : ∀ p suite t, valid t →
    testRun p suite ((Toolchain.runTests p suite).run.run t).1 ∧
      valid ((Toolchain.runTests p suite).run.run t).2

namespace Contract

variable {T : Type} [Toolchain T]

/-- There is one answer to each request. -/
structure Deterministic (k : Contract T) : Prop where
  build : ∀ p r r', k.build p r → k.build p r' → r = r'
  testRun : ∀ p suite r r', k.testRun p suite r → k.testRun p suite r' → r = r'

/-- The two operations say the same of the build of a program, and fail for the same programs. -/
structure Consistent (k : Contract T) : Prop where
  build_eq : ∀ p suite outcome result, k.build p (.ok outcome) → k.testRun p suite (.ok result) →
    result.build = outcome
  fails_iff : ∀ p suite,
    (∃ e, k.build p (.error e)) ↔ ∃ e, k.testRun p suite (.error e)

/-- By the contract no operation fails. -/
structure Unfailing (k : Contract T) : Prop where
  build : ∀ p, ∃ outcome, k.build p (.ok outcome)
  testRun : ∀ p suite, ∃ result, k.testRun p suite (.ok result)

/-- By the contract the tools can always be used. -/
structure Available (k : Contract T) : Prop where
  build : ∀ p reason, ¬ k.build p (.error (.unavailable reason))
  testRun : ∀ p suite reason, ¬ k.testRun p suite (.error (.unavailable reason))

end Contract

/-! ## Sequences of calls -/

inductive Call where
  | compile (p : Program)
  | runTests (p : Program) (suite : TestSuite)

inductive Reply where
  | built (outcome : BuildOutcome)
  | tested (result : TestRun)

namespace Call

variable {T : Type} [Toolchain T]

def perform : Call → ExceptT ToolchainError (StateM T) Reply
  | compile p => .built <$> Toolchain.compile p
  | runTests p suite => .tested <$> Toolchain.runTests p suite

def reply (call : Call) (t : T) : Except ToolchainError Reply :=
  (call.perform.run.run t).1

/-- The state after a call, whether it failed or not. -/
def next (t : T) (call : Call) : T :=
  (call.perform.run.run t).2

def after (t : T) (calls : List Call) : T :=
  calls.foldl next t

def Asks (calls : List Call) (p : Program) (suite : TestSuite) : Prop :=
  runTests p suite ∈ calls

/-- No two different suites are in files of one name. -/
def TellApart (calls : List Call) : Prop :=
  ∀ p q suite suite', Asks calls p suite → Asks calls q suite' →
    suite.filename = suite'.filename → suite = suite'

@[simp] theorem reply_compile {p : Program} {t : T} :
    (compile p).reply t = ((Toolchain.compile p).run.run t).1.map Reply.built := by
  rw [reply, perform, ExceptT.run_map, StateT.run_map]
  rcases (Toolchain.compile p).run.run t with ⟨r, t'⟩
  cases r <;> rfl

@[simp] theorem next_compile {p : Program} {t : T} :
    next t (compile p) = ((Toolchain.compile p).run.run t).2 := by
  rw [next, perform, ExceptT.run_map, StateT.run_map]
  rfl

@[simp] theorem reply_runTests {p : Program} {suite : TestSuite} {t : T} :
    (runTests p suite).reply t = ((Toolchain.runTests p suite).run.run t).1.map Reply.tested := by
  rw [reply, perform, ExceptT.run_map, StateT.run_map]
  rcases (Toolchain.runTests p suite).run.run t with ⟨r, t'⟩
  cases r <;> rfl

@[simp] theorem next_runTests {p : Program} {suite : TestSuite} {t : T} :
    next t (runTests p suite) = ((Toolchain.runTests p suite).run.run t).2 := by
  rw [next, perform, ExceptT.run_map, StateT.run_map]
  rfl

end Call

namespace Contract

variable {T : Type} [Toolchain T] (k : Contract T)

/-- Whether a reply answers a call as the contract says. -/
def Allows : Call → Except ToolchainError Reply → Prop
  | .compile p, reply => ∃ r, k.build p r ∧ reply = r.map Reply.built
  | .runTests p suite, reply => ∃ r, k.testRun p suite r ∧ reply = r.map Reply.tested

variable {k}

theorem Deterministic.reply_eq (hdet : k.Deterministic) {call : Call}
    {reply reply' : Except ToolchainError Reply} (h : k.Allows call reply)
    (h' : k.Allows call reply') : reply = reply' := by
  cases call with
  | compile p =>
    obtain ⟨r, hr, rfl⟩ := h
    obtain ⟨r', hr', rfl⟩ := h'
    rw [hdet.build p r r' hr hr']
  | runTests p suite =>
    obtain ⟨r, hr, rfl⟩ := h
    obtain ⟨r', hr', rfl⟩ := h'
    rw [hdet.testRun p suite r r' hr hr']

theorem allows_reply {t : T} (h : k.valid t) (call : Call) : k.Allows call (call.reply t) := by
  cases call with
  | compile p => exact ⟨_, (k.compile_answers p t h).1, Call.reply_compile⟩
  | runTests p suite => exact ⟨_, (k.runTests_answers p suite t h).1, Call.reply_runTests⟩

end Contract

end GeneticRepair
