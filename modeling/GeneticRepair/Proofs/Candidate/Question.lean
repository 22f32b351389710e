import GeneticRepair.Candidate.Evaluation
import GeneticRepair.Proofs.Outcome

/-!
# Questions about candidates

All that a laboratory does to answer a question about a candidate are turns, each of which uses the
toolchain at most once and changes no memo but that of the candidate, and the choice of the baseline.
An invariant that both of them keep is kept by every sequence of questions, also of such that
fail.
-/

namespace GeneticRepair

variable {R T G : Type} [Toolchain T]

namespace Lab

variable {T G : Type} {s : Lab T G} {i j : Nat} {m n : Memo} {t : T}

def update (s : Lab T G) (i : Nat) (m : Memo) (t : T) : Lab T G :=
  { s with toolchain := t, memos := s.memos.setIfInBounds i m }

@[simp] theorem size_memos_update : (s.update i m t).memos.size = s.memos.size := by
  simp [update]

theorem memos_update (h : s.memos[i]? = some n) : (s.update i m t).memos[i]? = some m := by
  have hi := (Array.getElem?_eq_some_iff.mp h).1
  simp [update, hi]

theorem memos_update_of_ne (h : i ≠ j) : (s.update i m t).memos[j]? = s.memos[j]? := by
  simp [update, h]

theorem update_self (h : s.memos[i]? = some m) : s.update i m t = { s with toolchain := t } := by
  obtain ⟨hi, rfl⟩ := Array.getElem?_eq_some_iff.mp h
  have hset : s.memos.setIfInBounds i s.memos[i] = s.memos := by
    apply Array.ext
    · simp
    · intro j hj hj'
      rw [Array.getElem_setIfInBounds hj']
      split
      · simp [*]
      · rfl
  rw [update, hset]

theorem returns_memo (h : s.memos[i]? = some m) : Returns (memo i) s m s := by
  simp [memo, h]

theorem returns_setMemo : Returns (setMemo i m) s () (s.update i m s.toolchain) :=
  returns_modify.mpr rfl

private theorem returns_use_of_run {α : Type} {act : ExceptT ToolchainError (StateM T) α}
    {r : Except ToolchainError α} (h : act.run.run s.toolchain = (r, t)) :
    Returns (use act) s r { s with toolchain := t } := by
  have hact : act.run s.toolchain = (r, t) := h
  rw [use, returns_modifyGet, hact]

@[simp] theorem returns_orFail {ε α : Type} {failure : ε → Failure} {e : Except ε α}
    {s' : Lab T G} {a : α} :
    Returns (orFail failure e : Action T G α) s a s' ↔ e = .ok a ∧ s' = s := by
  cases e with
  | ok b => simp [orFail, eq_comm]
  | error e => simp [orFail]

end Lab

/-- A turn leads from a memo of a candidate and a state of the toolchain to others. -/
inductive Candidate.Turn (c : Candidate R) (m : Memo) (t : T) : Memo → T → Prop
  | idle : Turn c m t m t
  | built {build : BuildOutcome} {t' : T} (unknown : m.build = none ∧ m.result = none)
      (answer : (Toolchain.compile c.program).run.run t = (.ok build, t')) :
      Turn c m t { m with build := some build } t'
  | unbuilt {e : ToolchainError} {t' : T} (unknown : m.build = none ∧ m.result = none)
      (answer : (Toolchain.compile c.program).run.run t = (.error e, t')) : Turn c m t m t'
  | tested {result : TestRun} {t' : T} (unknown : m.result = none)
      (unfailed : ∀ b, m.build = some b → b.successful = true)
      (answer : (Toolchain.runTests c.program c.suite).run.run t = (.ok result, t')) :
      Turn c m t { m with result := some result, build := some result.build } t'
  | untested {e : ToolchainError} {t' : T} (unknown : m.result = none)
      (unfailed : ∀ b, m.build = some b → b.successful = true)
      (answer : (Toolchain.runTests c.program c.suite).run.run t = (.error e, t')) : Turn c m t m t'
  /-- The tests of a program whose build has failed are not run. -/
  | skipped {build : BuildOutcome} (unknown : m.result = none) (failed : m.build = some build)
      (unsuccessful : build.successful = false) :
      Turn c m t { m with result := some ⟨build, .empty⟩, build := some build } t
  | recalled {result : TestRun} (unknown : m.build = none) (known : m.result = some result) :
      Turn c m t { m with build := some result.build } t
  | summarized {result : TestRun} (known : m.result = some result) :
      Turn c m t { m with spectra := some (.ofCoverage result.coverage) } t

/-- From one laboratory to the other, there has been a turn at the memo of the candidate. -/
def Candidate.Moves (c : Candidate R) (s s' : Lab T G) : Prop :=
  ∀ m, s.memos[c.memo]? = some m →
    ∃ m' t', c.Turn m s.toolchain m' t' ∧ s' = s.update c.memo m' t'

namespace Candidate

variable {c : Candidate R} {s s' : Lab T G} {m : Memo}

private theorem moves_refl (s : Lab T G) : c.Moves s s :=
  fun m hm => ⟨m, s.toolchain, .idle, (Lab.update_self hm).symm⟩

/-- Asking whether the candidate compiles is a turn. The answer is in the memo after it, unless a
system fault stands for a failed build. -/
theorem run_isCompilable (hm : s.memos[c.memo]? = some m) :
    ∃ m' t', c.Turn m s.toolchain m' t' ∧ (c.isCompilable.run.run s).2 = s.update c.memo m' t' ∧
      ∀ b, (c.isCompilable.run.run s).1 = .ok b →
        (∃ build, m'.build = some build ∧ build.successful = b) ∨
        b = false ∧ ∃ fault, (Toolchain.compile c.program).run.run s.toolchain =
          (.error (.system fault), t') := by
  rw [isCompilable, (Lab.returns_memo hm).run_bind]
  cases hbuild : m.build with
  | some build =>
    refine ⟨m, s.toolchain, .idle, (Lab.update_self hm).symm, ?_⟩
    intro b hb
    exact .inl ⟨build, hbuild, Except.ok.inj hb⟩
  | none =>
    cases hresult : m.result with
    | some result =>
      refine ⟨_, _, .recalled hbuild hresult, rfl, ?_⟩
      intro b hb
      exact .inl ⟨_, rfl, Except.ok.inj hb⟩
    | none =>
      rcases hrun : (Toolchain.compile c.program).run.run s.toolchain with ⟨r, t'⟩
      dsimp only
      rw [(Lab.returns_use_of_run hrun).run_bind]
      cases r with
      | ok build =>
        refine ⟨_, _, .built ⟨hbuild, hresult⟩ hrun, rfl, ?_⟩
        intro b hb
        exact .inl ⟨_, rfl, Except.ok.inj hb⟩
      | error e =>
        refine ⟨m, t', .unbuilt ⟨hbuild, hresult⟩ hrun, ?_, ?_⟩
        · rw [Lab.update_self hm]
          cases e <;> rfl
        · intro b hb
          cases e with
          | system fault => exact .inr ⟨(Except.ok.inj hb).symm, fault, rfl⟩
          | _ => cases hb

theorem moves_isCompilable : c.Moves s (c.isCompilable.run.run s).2 := by
  intro m hm
  obtain ⟨m', t', hturn, hs', -⟩ := run_isCompilable hm
  exact ⟨m', t', hturn, hs'⟩

/-- An evaluation is a turn, after which its result is in the memo. -/
theorem run_evaluate (hm : s.memos[c.memo]? = some m) :
    ∃ m' t', c.Turn m s.toolchain m' t' ∧ (c.evaluate.run.run s).2 = s.update c.memo m' t' ∧
      ∀ r, (c.evaluate.run.run s).1 = .ok r → m'.result = some r := by
  rw [evaluate, (Lab.returns_memo hm).run_bind]
  cases hresult : m.result with
  | some result =>
    refine ⟨m, s.toolchain, .idle, (Lab.update_self hm).symm, ?_⟩
    intro r hr
    rw [hresult, Except.ok.inj hr]
  | none =>
    dsimp only
    by_cases hfailed : ∃ build, m.build = some build ∧ build.successful = false
    · obtain ⟨build, hbuild, hno⟩ := hfailed
      have hskip : Returns (c.runTests m.build) s ⟨build, .empty⟩ s := by
        simp [runTests, hbuild, hno]
      rw [hskip.run_bind, Lab.returns_setMemo.run_bind]
      refine ⟨_, _, .skipped hresult hbuild hno, rfl, ?_⟩
      intro r hr
      rw [Except.ok.inj hr]
    · have hunfailed : ∀ b, m.build = some b → b.successful = true := by
        intro b hb
        by_contra hno
        exact hfailed ⟨b, hb, by simpa using hno⟩
      have htest : c.runTests m.build = (runTests.testAll c : Action T G TestRun) := by
        unfold runTests
        cases hbuild : m.build with
        | none => rfl
        | some b => simp [hunfailed b hbuild]
      rw [htest]
      rcases hrun : (Toolchain.runTests c.program c.suite).run.run s.toolchain with ⟨r, t'⟩
      cases r with
      | ok result =>
        have hall : Returns (runTests.testAll c) s result { s with toolchain := t' } :=
          (Lab.returns_use_of_run hrun).run_bind
        rw [hall.run_bind, Lab.returns_setMemo.run_bind]
        refine ⟨_, _, .tested hresult hunfailed hrun, rfl, ?_⟩
        intro r hr
        rw [Except.ok.inj hr]
      | error e =>
        have hall : ∃ f, (runTests.testAll c : Action T G TestRun).run.run s =
            (.error f, { s with toolchain := t' }) := by
          rw [runTests.testAll, (Lab.returns_use_of_run hrun).run_bind]
          cases e <;> exact ⟨_, rfl⟩
        obtain ⟨f, hf⟩ := hall
        rw [run_bind_error hf]
        refine ⟨m, t', .untested hresult hunfailed hrun, (Lab.update_self hm).symm, ?_⟩
        intro r hr
        cases hr

theorem moves_evaluate : c.Moves s (c.evaluate.run.run s).2 := by
  intro m hm
  obtain ⟨m', t', hturn, hs', -⟩ := run_evaluate hm
  exact ⟨m', t', hturn, hs'⟩

private theorem moves_spectra : c.Moves s (c.spectra.run.run s).2 := by
  intro m hm
  rw [spectra, (Lab.returns_memo hm).run_bind]
  cases hspectra : m.spectra with
  | some x => exact moves_refl s m hm
  | none =>
    cases hresult : m.result with
    | some result =>
      refine ⟨_, s.toolchain, .summarized hresult, ?_⟩
      rw [hresult]
      rfl
    | none => exact moves_refl s m hm

variable {t : Lab T G} {r : TestRun}

theorem memo_of_evaluateCompiled? (hm : s.memos[c.memo]? = some m)
    (h : Returns c.evaluateCompiled? s (some r) t) :
    r.compiled = true ∧ ∃ m', t.memos[c.memo]? = some m' ∧ m'.result = some r := by
  obtain ⟨compiles, s₁, hcompiles, h⟩ := returns_bind.mp h
  cases compiles with
  | false => cases (returns_pure.mp h).1
  | true =>
    obtain ⟨x, t', hx, h⟩ := returns_bind.mp h
    obtain ⟨hfilter, rfl⟩ := returns_pure.mp h
    obtain ⟨rfl, hcompiled⟩ := Option.filter_eq_some_iff.mp hfilter.symm
    refine ⟨hcompiled, ?_⟩
    obtain ⟨m₁, t₁, -, hs₁⟩ := moves_isCompilable (c := c) m hm
    rw [hcompiles] at hs₁
    have hm₁ : s₁.memos[c.memo]? = some m₁ := by
      rw [show s₁ = _ from hs₁, Lab.memos_update hm]
    obtain hsome | ⟨e, u, -, hcaught⟩ := hx.of_tryCatch
    · obtain ⟨r', hr', heq⟩ := returns_map.mp hsome
      obtain rfl := Option.some.inj heq
      obtain ⟨m₂, t₂, -, hs₂, hresult⟩ := run_evaluate hm₁
      rw [hr'] at hs₂ hresult
      refine ⟨m₂, ?_, hresult r rfl⟩
      rw [show t = _ from hs₂, Lab.memos_update hm₁]
    · cases e with
      | evaluation => cases (returns_pure.mp hcaught).1
      | _ => exact (not_returns_throw hcaught).elim

theorem returns_evaluateCompiled?_of_memo (hm : s.memos[c.memo]? = some m)
    (hresult : m.result = some r) (hbuild : m.build = some r.build) (hcompiled : r.compiled = true) :
    Returns c.evaluateCompiled? s (some r) s := by
  have hcompiles : Returns c.isCompilable s true s := by
    rw [isCompilable, Returns, (Lab.returns_memo hm).run_bind, hbuild]
    exact returns_pure.mpr ⟨hcompiled.symm, rfl⟩
  have hevaluate : Returns c.evaluate s r s := by
    rw [evaluate, Returns, (Lab.returns_memo hm).run_bind, hresult]
    rfl
  have hevaluate? : Returns c.evaluate? s (some r) s :=
    Returns.tryCatch (returns_map.mpr ⟨r, hevaluate, rfl⟩)
  rw [evaluateCompiled?, Returns, hcompiles.run_bind, if_pos rfl, hevaluate?.run_bind,
    Option.filter_some, if_pos hcompiled]
  rfl

end Candidate

/-- The baseline that a test run makes. -/
def TestRun.baseline (r : TestRun) : Baseline :=
  ⟨r.passing, r.failing⟩

omit [Toolchain T] in
/-- A baseline that is there stays. -/
theorem Candidate.returns_baseline (s : Lab T G) (r : TestRun) :
    Returns (Candidate.baseline r) s (s.baseline.getD r.baseline)
      { s with baseline := some (s.baseline.getD r.baseline) } := by
  cases s with
  | mk toolchain memos base random =>
    cases base <;> rfl

/-- Whether the candidate passes as many tests as the baseline has, if there is one. -/
def Candidate.meetsBaseline (c : Candidate R) : Action T G Bool := do
  match (← get).baseline with
  | none => return false
  | some b =>
    match ← c.evaluateCompiled? with
    | some result => return result.passing.length == b.passing.length + b.failing.length
    | none => return false

/-- A candidate is scored before it is judged, if there is no baseline. -/
theorem Candidate.isRepair_eq [Scalar R] (c : Candidate R) :
    (c.isRepair : Action T G Bool) = (do
      if (← get).baseline.isNone then
        let _ ← c.fitness
        c.meetsBaseline
      else
        c.meetsBaseline) :=
  rfl

/-! ## Invariants -/

/-- Turns at the candidate keep the invariant, by which all results in its memo are known to have a
property. -/
structure Candidate.TurnsKeep (c : Candidate R) (inv : Lab T G → Prop) (known : TestRun → Prop) :
    Prop where
  memo : ∀ s, inv s → ∃ m, s.memos[c.memo]? = some m ∧ ∀ r, m.result = some r → known r
  turn : ∀ s m m' t', inv s → s.memos[c.memo]? = some m → c.Turn m s.toolchain m' t' →
    inv (s.update c.memo m' t')

/-- The invariant is also kept when such a result becomes the baseline. -/
structure Candidate.QuestionsKeep (c : Candidate R) (inv : Lab T G → Prop) (known : TestRun → Prop) :
    Prop extends c.TurnsKeep inv known where
  baseline : ∀ s r, inv s → known r → r.compiled = true → s.baseline = none →
    inv { s with baseline := some r.baseline }

namespace Candidate.TurnsKeep

variable {c : Candidate R} {inv : Lab T G → Prop} {known : TestRun → Prop}

private theorem moves (h : c.TurnsKeep inv known) {s s' : Lab T G} (hs : inv s)
    (hmoves : c.Moves s s') :
    inv s' := by
  obtain ⟨m, hm, -⟩ := h.memo s hs
  obtain ⟨m', t', hturn, rfl⟩ := hmoves m hm
  exact h.turn s m m' t' hs hm hturn

private theorem ends_of_moves {α : Type} (h : c.TurnsKeep inv known) {act : Action T G α}
    (hmoves : ∀ s, c.Moves s (act.run.run s).2) :
    Ends inv act (fun _ => True) fun _ => True := by
  intro s hs
  refine ⟨?_, h.moves hs (hmoves s)⟩
  cases (act.run.run s).1 <;> trivial

theorem ends_isCompilable (h : c.TurnsKeep inv known) :
    Ends inv c.isCompilable (fun _ => True) fun _ => True :=
  h.ends_of_moves fun _ => moves_isCompilable

private theorem ends_evaluate (h : c.TurnsKeep inv known) :
    Ends inv c.evaluate known fun _ => True := by
  intro s hs
  obtain ⟨m, hm, -⟩ := h.memo s hs
  obtain ⟨m', t', hturn, hs', hresult⟩ := run_evaluate hm
  have hinv := h.turn s m m' t' hs hm hturn
  rw [← hs'] at hinv
  refine ⟨?_, hinv⟩
  cases hr : (c.evaluate.run.run s).1 with
  | error e => trivial
  | ok r =>
    obtain ⟨n, hn, hknown⟩ := h.memo _ hinv
    rw [hs', Lab.memos_update hm] at hn
    obtain rfl := Option.some.inj hn
    exact hknown r (hresult r hr)

theorem ends_evaluate? (h : c.TurnsKeep inv known) :
    Ends inv c.evaluate? (fun x => ∀ r, x = some r → known r) fun _ => True := by
  have hsome : Ends inv (some <$> c.evaluate) (fun x => ∀ r, x = some r → known r)
      fun _ => True := by
    apply h.ends_evaluate.map
    intro r hr r' heq
    exact Option.some.inj heq ▸ hr
  apply hsome.tryCatch
  intro e _
  split
  · exact ends_pure fun r heq => nomatch heq
  · exact ends_throw trivial

theorem ends_evaluateCompiled? (h : c.TurnsKeep inv known) :
    Ends inv c.evaluateCompiled? (fun x => ∀ r, x = some r → known r ∧ r.compiled = true)
      fun _ => True := by
  apply h.ends_isCompilable.bind
  intro compiles _
  cases compiles with
  | false => exact ends_pure fun r heq => nomatch heq
  | true =>
    apply h.ends_evaluate?.bind
    intro x hx
    apply ends_pure
    intro r hr
    obtain ⟨hr, hcompiled⟩ := Option.filter_eq_some_iff.mp hr
    exact ⟨hx r hr, hcompiled⟩

private theorem ends_spectra (h : c.TurnsKeep inv known) :
    Ends inv c.spectra (fun _ => True) fun _ => True :=
  h.ends_of_moves fun _ => moves_spectra

private theorem ends_tally (h : c.TurnsKeep inv known) (count : SpectrumRow → Int) :
    Ends inv (c.tally count) (fun _ => True) fun _ => True :=
  h.ends_spectra.bind fun _ _ => ends_pure trivial

variable [Scalar R]

omit [Toolchain T] [Scalar R] in
private theorem ends_orFail {α ε : Type} (failure : ε → Failure) (x : Except ε α) :
    Ends inv (Lab.orFail failure x : Action T G α) (fun _ => True) fun _ => True := by
  cases x with
  | ok a => exact ends_pure trivial
  | error e => exact ends_throw trivial

theorem ends_suspiciousness (h : c.TurnsKeep inv known) :
    Ends inv c.suspiciousness (fun _ => True) fun _ => True := by
  apply h.ends_evaluateCompiled?.mono (fun _ _ => trivial) (fun _ h => h) |>.bind
  intro x _
  cases x with
  | none => exact ends_pure trivial
  | some r => exact h.ends_spectra.bind fun _ _ => ends_orFail _ _

end Candidate.TurnsKeep

namespace Candidate.QuestionsKeep

variable {c : Candidate R} {inv : Lab T G → Prop} {known : TestRun → Prop}

private theorem ends_baseline (h : c.QuestionsKeep inv known) {r : TestRun} (hr : known r)
    (hcompiled : r.compiled = true) :
    Ends inv (Candidate.baseline r : Action T G _) (fun _ => True) fun _ => True := by
  intro s hs
  rw [returns_baseline s r]
  refine ⟨trivial, ?_⟩
  cases hbase : s.baseline with
  | some b =>
    rw [Option.getD_some, ← hbase]
    exact hs
  | none => exact h.baseline s r hs hr hcompiled hbase

variable [Scalar R]

theorem ends_fitness (h : c.QuestionsKeep inv known) :
    Ends inv c.fitness (fun _ => True) fun _ => True := by
  apply h.ends_evaluateCompiled?.bind
  intro x hx
  cases x with
  | none => exact ends_pure trivial
  | some r =>
    obtain ⟨hr, hcompiled⟩ := hx r rfl
    exact (h.ends_baseline hr hcompiled).bind fun _ _ => TurnsKeep.ends_orFail _ _

theorem ends_isRepair (h : c.QuestionsKeep inv known) :
    Ends inv c.isRepair (fun _ => True) fun _ => True := by
  have hmeets : Ends inv (c.meetsBaseline : Action T G Bool) (fun _ => True) fun _ => True := by
    apply ends_get.bind
    intro s _
    cases s.baseline with
    | none => exact ends_pure trivial
    | some b =>
      apply h.ends_evaluateCompiled?.bind
      intro x _
      cases x <;> exact ends_pure trivial
  rw [isRepair_eq]
  apply ends_get.bind
  intro s _
  split
  · exact h.ends_fitness.bind fun _ _ => hmeets
  · exact hmeets

end Candidate.QuestionsKeep

/-! ## Sequences of questions -/

inductive Question where
  | isCompilable
  | evaluate
  | spectra
  | tally (count : SpectrumRow → Int)
  | suspiciousness
  | fitness
  | isRepair

namespace Question

variable [Scalar R]

/-- The laboratory after a question, whether it was answered or failed. -/
def next (s : Lab T G) (c : Candidate R) : Question → Lab T G
  | isCompilable => (c.isCompilable.run.run s).2
  | evaluate => (c.evaluate.run.run s).2
  | spectra => (c.spectra.run.run s).2
  | tally count => ((c.tally count).run.run s).2
  | suspiciousness => (c.suspiciousness.run.run s).2
  | fitness => (c.fitness.run.run s).2
  | isRepair => (c.isRepair.run.run s).2

def after (s : Lab T G) (asked : List (Question × Candidate R)) : Lab T G :=
  asked.foldl (fun s (q, c) => q.next s c) s

variable {inv : Lab T G → Prop} {known : TestRun → Prop} {c : Candidate R} {s : Lab T G}

private theorem next_of_keep (h : c.QuestionsKeep inv known) (hs : inv s) (q : Question) :
    inv (q.next s c) := by
  cases q with
  | isCompilable => exact (h.toTurnsKeep.ends_isCompilable s hs).2
  | evaluate => exact (h.toTurnsKeep.ends_evaluate s hs).2
  | spectra => exact (h.toTurnsKeep.ends_spectra s hs).2
  | tally count => exact (h.toTurnsKeep.ends_tally count s hs).2
  | suspiciousness => exact (h.toTurnsKeep.ends_suspiciousness s hs).2
  | fitness => exact (h.ends_fitness s hs).2
  | isRepair => exact (h.ends_isRepair s hs).2

theorem after_of_keep {asked : List (Question × Candidate R)}
    (h : ∀ x ∈ asked, x.2.QuestionsKeep inv known) (hs : inv s) : inv (after s asked) := by
  induction asked generalizing s with
  | nil => exact hs
  | cons x asked ih =>
    have hnext := next_of_keep (h x (by simp)) hs x.1
    exact ih (fun y hy => h y (by simp [hy])) hnext

/-- What turns keep of a memo and of the toolchain holds after all questions about candidates with
that memo. -/
theorem holds_after {asked : List (Question × Candidate R)} {i : Nat} {holds : Memo → T → Prop}
    (hasked : ∀ x ∈ asked, x.2.memo = i)
    (hturn : ∀ (c : Candidate R) m t m' t', holds m t → c.Turn m t m' t' → holds m' t')
    (h : ∃ m, s.memos[i]? = some m ∧ holds m s.toolchain) :
    ∃ m, (after s asked).memos[i]? = some m ∧ holds m (after s asked).toolchain := by
  have hkeep : ∀ c : Candidate R, c.memo = i →
      c.QuestionsKeep (fun s : Lab T G => ∃ m, s.memos[i]? = some m ∧ holds m s.toolchain)
        fun _ => True := by
    intro c hc
    subst hc
    refine ⟨⟨?_, ?_⟩, fun _ _ hs _ _ _ => hs⟩
    · intro s ⟨m, hm, _⟩
      exact ⟨m, hm, fun _ _ => trivial⟩
    · intro s m m' t' ⟨n, hn, hholds⟩ hm hmt
      obtain rfl := Option.some.inj (hm.symm.trans hn)
      exact ⟨m', Lab.memos_update hm, hturn c m s.toolchain m' t' hholds hmt⟩
  exact after_of_keep (fun x hx => hkeep x.2 (hasked x hx)) h

end Question

end GeneticRepair
