import GeneticRepair.Proofs.Candidate.Attempts
import GeneticRepair.Proofs.Search.Pooling
import GeneticRepair.Proofs.Search.Population

/-!
# What is left unevaluated

Of several candidates that differ in blank lines only, the first is evaluated for all of them,
although those that are no copies of it do not share its evaluation. Nothing else is left
unevaluated, but by evaluations that fail.
-/

namespace GeneticRepair

variable {R T G : Type}

namespace Search

/-! ## What is pending -/

section Pending

variable {c d : Candidate R} {cs : List (Candidate R)} {s : Lab T G}

def pending (s : Lab T G) (cs : List (Candidate R)) : List (Candidate R) :=
  distinct (cs.filter fun c => !s.evaluated c.memo)

private theorem returns_filterAuxM {ε σ α : Type} {l : List α} {s : σ}
    {p : α → ExceptT ε (StateM σ) Bool} {q : α → Bool} (h : ∀ a ∈ l, Returns (p a) s (q a) s)
    (kept : List α) : Returns (l.filterAuxM p kept) s ((l.filter q).reverse ++ kept) s := by
  induction l generalizing kept with
  | nil => exact returns_pure.mpr ⟨rfl, rfl⟩
  | cons a l ih =>
    have hl := ih (fun b hb => h b (List.mem_cons_of_mem a hb)) (if q a then a :: kept else kept)
    rw [List.filterAuxM]
    refine returns_bind.mpr ⟨q a, s, h a List.mem_cons_self, ?_⟩
    cases hq : q a <;> simpa [hq] using hl

private theorem returns_unevaluated_filter (s : Lab T G) (cs : List (Candidate R)) :
    Returns (unevaluated cs) s (cs.filter fun c => !s.evaluated c.memo) s := by
  have hlook : ∀ c ∈ cs, Returns (do return !(← c.isEvaluated)) s (!s.evaluated c.memo) s :=
    fun _ _ => rfl
  refine returns_bind.mpr ⟨_, s, returns_filterAuxM hlook [], returns_pure.mpr ⟨?_, rfl⟩⟩
  rw [List.append_nil, List.reverse_reverse]

private theorem mem_distinct_append (before after : List (Candidate R)) (c : Candidate R) :
    c ∈ distinct (before ++ c :: after) ∨
      ∃ d ∈ before, d.same c = true ∧ d ∈ distinct (before ++ c :: after) := by
  induction before with
  | nil => exact .inl (by simp [distinct])
  | cons e before ih =>
    rw [List.cons_append, distinct]
    by_cases he : e.same c = true
    · exact .inr ⟨e, by simp, he, by simp⟩
    · rcases ih with hc | ⟨d, hd, hsame, hmem⟩
      · exact .inl (List.mem_cons_of_mem e (List.mem_filter.mpr ⟨hc, by simpa using he⟩))
      · refine .inr ⟨d, List.mem_cons_of_mem e hd, hsame, List.mem_cons_of_mem e ?_⟩
        refine List.mem_filter.mpr ⟨hmem, ?_⟩
        have hother : ¬ e.same d = true :=
          fun hed => he (Candidate.same_trans hed hsame)
        simpa using hother

private theorem mem_pending (s : Lab T G) (before after : List (Candidate R)) (c : Candidate R) :
    s.evaluated c.memo = true ∨ c ∈ pending s (before ++ c :: after) ∨
      ∃ d ∈ before, d.same c = true ∧ s.evaluated d.memo = false ∧
        d ∈ pending s (before ++ c :: after) := by
  by_cases hc : s.evaluated c.memo = true
  · exact .inl hc
  · right
    have hfilter : (before ++ c :: after).filter (fun c => !s.evaluated c.memo) =
        before.filter (fun c => !s.evaluated c.memo) ++
          c :: after.filter (fun c => !s.evaluated c.memo) := by
      simp [hc]
    rw [pending, hfilter]
    refine (mem_distinct_append _ _ c).imp_right ?_
    rintro ⟨d, hd, hsame, hmem⟩
    obtain ⟨hd, hunevaluated⟩ := List.mem_filter.mp hd
    exact ⟨d, hd, hsame, by simpa using hunevaluated, hmem⟩

end Pending

/-! ## Outcomes of evaluations -/

variable [Toolchain T] [Stepwise T]

def collect (threads : List (Thread (Lab T G) (Except Failure (Option TestRun)))) :
    Action T G (List (Option TestRun)) :=
  threads.mapM fun thread => Thread.complete (ExceptT.mk thread)

/-- The results of candidates that are evaluated in a pool; none, if an evaluation has failed. -/
def poolOutcomes (schedule : List Nat) (cs : List (Candidate R)) :
    Action T G (List (Option TestRun)) := do
  let threads := cs.map fun c => c.evaluation?.run
  collect (← (Thread.interleave schedule threads : StateM (Lab T G) _))

/-- The results of candidates that are evaluated in a pool if there are several of them and several
threads. -/
def outcomesOf (threads : Quantity) (schedule : List Nat) (cs : List (Candidate R)) :
    Action T G (List (Option TestRun)) :=
  if Scalar.less (.ofInt 1) threads && cs.length > 1 then poolOutcomes schedule cs
  else cs.mapM fun c => c.evaluate?

/-- Every candidate that is evaluated, with its result. -/
def outcomes (threads : Quantity) (schedule : List Nat) (cs : List (Candidate R)) :
    Action T G (List (Candidate R × Option TestRun)) := do
  let pending := distinct (← unevaluated cs)
  return pending.zip (← outcomesOf threads schedule pending)

omit [Toolchain T] [Stepwise T] in
private theorem await_eq (threads : List (Thread (Lab T G) (Except Failure (Option TestRun)))) :
    (await threads : Action T G Unit) = (do let _ ← collect threads) := by
  induction threads with
  | nil => rfl
  | cons thread threads ih =>
    rw [await, ih]
    simp only [collect, List.mapM_cons, bind_assoc, pure_bind]

private theorem collect_evaluations (cs : List (Candidate R)) :
    (collect (cs.map fun c => c.evaluation?.run) : Action T G _) =
      cs.mapM fun c => c.evaluate? := by
  induction cs with
  | nil => rfl
  | cons c cs ih =>
    rw [collect] at ih
    have hc : Thread.complete (ExceptT.mk c.evaluation?.run) =
        (c.evaluate? : Action T G (Option TestRun)) :=
      Candidate.complete_evaluation? c
    rw [collect, List.map_cons, List.mapM_cons, hc, ih, List.mapM_cons]

theorem evaluateAllWith_eq (threads : Quantity) (schedule : List Nat) (cs : List (Candidate R)) :
    (evaluateAllWith threads schedule cs : Action T G Unit) =
      (do let _ ← outcomes threads schedule cs) := by
  have hpool : ∀ pending : List (Candidate R),
      (evaluateInPool schedule pending : Action T G Unit) =
        (do let _ ← poolOutcomes schedule pending) := by
    intro pending
    simp only [evaluateInPool, poolOutcomes, await_eq, bind_assoc]
  have heach : ∀ pending : List (Candidate R),
      (do for c in pending do let _ ← c.evaluate? : Action T G Unit) =
        (do let _ ← pending.mapM fun c => c.evaluate?) := by
    intro pending
    rw [← await_evaluations, await_eq, collect_evaluations]
  rw [evaluateAllWith, outcomes, bind_assoc]
  congr 1
  funext pending
  simp only [outcomesOf, bind_assoc, pure_bind]
  split
  · exact hpool _
  · exact heach _

omit [Toolchain T] [Stepwise T] in
private theorem run_collect {rel : Lab T G → Lab T G → Prop} [IsPreorder (Lab T G) rel]
    {post : Nat → Except Failure (Option TestRun) → Lab T G → Prop}
    {threads : List (Thread (Lab T G) (Except Failure (Option TestRun)))} {s : Lab T G}
    (h : ∀ (n : Nat) (thread : Thread (Lab T G) (Except Failure (Option TestRun))),
      threads[n]? = some thread → thread.Secures rel (post n) s) :
    ∃ r s', (collect threads).run.run s = (r, s') ∧ rel s s' ∧
      Meets (fun results => results.length = threads.length ∧
          ∀ (n : Nat) (result : Option TestRun), results[n]? = some result → post n (.ok result) s')
        (fun e => ∃ n, post n (.error e) s') r := by
  induction threads generalizing s post with
  | nil => exact ⟨_, s, rfl, refl_of rel s, rfl, by simp⟩
  | cons thread threads ih =>
    obtain ⟨hrel, hpost⟩ := (h 0 thread rfl).finish
    have hrun : (Thread.complete (ExceptT.mk thread) : Action T G _).run.run s =
      thread.finish.run s := rfl
    rcases hfinish : thread.finish.run s with ⟨e | result, s₁⟩
    · rw [hfinish] at hrun hrel hpost
      refine ⟨.error e, s₁, ?_, hrel, 0, hpost s₁ (refl_of rel s₁)⟩
      rw [collect, List.mapM_cons]
      exact run_bind_error hrun
    · rw [hfinish] at hrun hrel hpost
      obtain ⟨r, s', hrest, hrel', hr⟩ := ih fun n t ht => (h (n + 1) t ht).of_rel hrel
      refine ⟨(result :: ·) <$> r, s', ?_, trans_of rel hrel hrel', ?_⟩
      · rw [collect] at hrest
        rw [collect, List.mapM_cons, Returns.run_bind hrun]
        cases r with
        | error e => exact run_bind_error hrest
        | ok results => exact Returns.run_bind hrest
      · cases r with
        | error e =>
          obtain ⟨n, hn⟩ := hr
          exact ⟨n + 1, hn⟩
        | ok results =>
          obtain ⟨hlength, hresults⟩ := hr
          refine ⟨congrArg (· + 1) hlength, fun n result' hn => ?_⟩
          cases n with
          | zero =>
            obtain rfl := Option.some.inj hn
            exact hpost s' hrel'
          | succ n => exact hresults n result' hn

variable {failure : ToolchainError → Prop} {s : Lab T G}

/-- In a pool every candidate is evaluated, or fails to be. -/
theorem run_poolOutcomes (k : Attempting T failure) (hs : k.valid s.toolchain)
    (schedule : List Nat) (cs : List (Candidate R)) :
    ∃ r s', (poolOutcomes schedule cs).run.run s = (r, s') ∧ Lab.Attempts k s s' ∧
      Meets (fun results => results.length = cs.length ∧
          ∀ (n : Nat) (c : Candidate R) (result : Option TestRun), cs[n]? = some c →
            results[n]? = some result → result ≠ none → c.memo < s'.memos.size →
              s'.evaluated c.memo = true)
        (fun e => ∃ reason, e = .toolchain (.unavailable reason) ∧
          failure (.unavailable reason)) r := by
  have hthreads : ∀ (n : Nat) (thread : Thread (Lab T G) (Except Failure (Option TestRun))),
      (cs.map fun c => c.evaluation?.run)[n]? = some thread →
      thread.Secures (Lab.Attempts k) (fun r s' => Meets
        (fun result => ∀ c : Candidate R, cs[n]? = some c → result ≠ none →
          c.memo < s'.memos.size → s'.evaluated c.memo = true)
        (fun e => ∃ reason, e = .toolchain (.unavailable reason) ∧
          failure (.unavailable reason)) r) s := by
    intro n thread hthread
    rw [List.getElem?_map] at hthread
    obtain ⟨c, hc, rfl⟩ := Option.map_eq_some_iff.mp hthread
    refine (Candidate.secures_evaluation?_attempts (c := c) hs).mono fun r s' hr => ?_
    refine hr.mono (fun result hresult d hd => ?_) fun _ he => he
    obtain rfl := Option.some.inj (hc.symm.trans hd)
    exact hresult
  obtain ⟨hrel, hlength, hinterleaved⟩ := Thread.secures_interleave schedule hthreads
  obtain ⟨r, s', hrun, hrel', hr⟩ := run_collect hinterleaved
  refine ⟨r, s', hrun, trans_of (Lab.Attempts k) hrel hrel', hr.mono ?_ ?_⟩
  · rintro results ⟨hsame, hresults⟩
    refine ⟨by rw [hsame, hlength, List.length_map], ?_⟩
    exact fun n c result hc hresult => hresults n result hresult c hc
  · rintro e ⟨n, he⟩
    exact he

theorem run_outcomes (k : Attempting T failure) (hs : k.valid s.toolchain) (threads : Quantity)
    (schedule : List Nat) (cs : List (Candidate R)) :
    ∃ r s', (outcomes threads schedule cs).run.run s = (r, s') ∧ Lab.Attempts k s s' ∧
      Meets (fun tried => ∀ c ∈ pending s cs, ∃ result, (c, result) ∈ tried ∧
          (result ≠ none → c.memo < s'.memos.size → s'.evaluated c.memo = true))
        (fun e => ∃ reason, e = .toolchain (.unavailable reason) ∧
          failure (.unavailable reason)) r := by
  obtain ⟨own, hown⟩ : ∃ own, (outcomesOf threads schedule (pending s cs) : Action T G _) =
      poolOutcomes own (pending s cs) := by
    unfold outcomesOf
    split
    · exact ⟨schedule, rfl⟩
    · exact ⟨[], (collect_evaluations _).symm⟩
  obtain ⟨r, s', hrun, hrel, hr⟩ := run_poolOutcomes k hs own (pending s cs)
  refine ⟨(pending s cs).zip <$> r, s', ?_, hrel, ?_⟩
  · rw [← hown] at hrun
    rw [outcomes, (returns_unevaluated_filter s cs).run_bind]
    cases r with
    | error e => exact run_bind_error hrun
    | ok results => exact Returns.run_bind hrun
  · cases r with
    | error e => exact hr
    | ok results =>
      obtain ⟨hlength, hresults⟩ := hr
      intro c hc
      obtain ⟨n, hn⟩ := List.getElem?_of_mem hc
      have hlt : n < results.length := by
        rw [hlength]
        exact (List.getElem?_eq_some_iff.mp hn).1
      have hresult := List.getElem?_eq_getElem hlt
      have hzip : ((pending s cs).zip results)[n]? = some (c, results[n]) :=
        List.getElem?_zip_eq_some.mpr ⟨hn, hresult⟩
      exact ⟨results[n], List.mem_of_getElem? hzip, hresults n c _ hn hresult⟩

/-- The candidate has been evaluated, or an evaluation of it or of a copy has failed. -/
def Attended (tried : List (Candidate R × Option TestRun)) (s : Lab T G) (c : Candidate R) : Prop :=
  Returns c.isEvaluated s true s ∨ ∃ d, (d, none) ∈ tried ∧ d.memo = c.memo

/-- If the tools can be used, evaluating candidates always returns, whatever the number of threads
and the schedule. Then every candidate has been attended to, or an earlier one that had not been
evaluated, and that has the same lines but for blank ones, has been in its place. -/
theorem evaluateAllWith_attends (k : Attempting T ToolchainError.IsSystem)
    (hs : k.valid s.toolchain) {cs : List (Candidate R)}
    (hmemos : ∀ c ∈ cs, c.memo < s.memos.size) (threads : Quantity) (schedule : List Nat) :
    ∃ tried s', Returns (outcomes threads schedule cs) s tried s' ∧
      Returns (evaluateAllWith threads schedule cs) s () s' ∧
      ∀ before c after, cs = before ++ c :: after →
        Attended tried s' c ∨ ∃ d ∈ before, d.same c = true ∧ Returns d.isEvaluated s false s ∧
          Attended tried s' d := by
  obtain ⟨r, s', hrun, hrel, hr⟩ := run_outcomes k hs threads schedule cs
  rcases r with e | tried
  · obtain ⟨reason, -, fault, hfault⟩ := hr
    cases hfault
  have hattended : ∀ c ∈ pending s cs, Attended tried s' c := by
    intro c hc
    obtain ⟨result, htried, hresult⟩ := hr c hc
    cases result with
    | none => exact .inr ⟨c, htried, rfl⟩
    | some r =>
      have hlt : c.memo < s'.memos.size := by
        rw [hrel.size]
        exact hmemos c (List.mem_of_mem_filter (distinct_subset _ hc))
      refine .inl ?_
      rw [← hresult (by simp) hlt]
      exact Lab.returns_isEvaluated c s'
  refine ⟨tried, s', hrun, ?_, ?_⟩
  · rw [evaluateAllWith_eq]
    exact returns_bind.mpr ⟨tried, s', hrun, returns_pure.mpr ⟨rfl, rfl⟩⟩
  · rintro before c after rfl
    rcases mem_pending s before after c with hc | hc | ⟨d, hd, hsame, hunevaluated, hmem⟩
    · refine .inl (.inl ?_)
      rw [← hrel.evaluated c.memo hc]
      exact Lab.returns_isEvaluated c s'
    · exact .inl (hattended c hc)
    · refine .inr ⟨d, hd, hsame, ?_, hattended d hmem⟩
      rw [← hunevaluated]
      exact Lab.returns_isEvaluated d s

end Search

/-! ## Candidates that differ in a blank line -/

namespace Twins

def rules : SimulationRules :=
  ⟨⟨[], []⟩, ⟨["@"], []⟩, [], []⟩

def candidate (lines : List String) (memo : Nat) : Candidate Quantity :=
  ⟨"program", lines, ⟨"t.py", ["def test_a(): pass"], [⟨"t.py", none, "test_a"⟩]⟩,
    ⟨.classic true, .raw, .ochiai, ⟨.ofInt 1, .ofInt 10⟩⟩, memo⟩

def first : Candidate Quantity :=
  candidate ["x = 1"] 0

def second : Candidate Quantity :=
  candidate ["x = 1", ""] 1

def faulty : Candidate Quantity :=
  candidate ["x = '@'"] 2

def lab : Lab Simulation Unit :=
  ⟨.new rules, #[.empty, .empty, .empty], none, ()⟩

open Search

/-- The second is not attended to. -/
theorem second_left : ∃ tried s', Returns (outcomes (.ofInt 1) [] [first, second]) lab tried s' ∧
    Returns (evaluateAll [first, second]) lab () s' ∧ ¬ Attended tried s' second := by
  refine ⟨[(first, some _)], _, rfl, rfl, ?_⟩
  rintro (hevaluated | ⟨d, hd, -⟩)
  · cases hevaluated
  · cases List.mem_singleton.mp hd

private theorem available : (Simulation.contract rules).Available :=
  Simulation.available_contract rfl

def attempting : Attempting Simulation ToolchainError.IsSystem :=
  available.attempting fun _ _ => rfl

/-- In a pool of two threads the first is attended to for the second. -/
theorem attended : ∃ tried s',
    Returns (outcomes (.ofInt 2) [1, 0, 1] [first, second, faulty]) lab tried s' ∧
      Attended tried s' first ∧ Attended tried s' faulty := by
  have hvalid : attempting.valid lab.toolchain := rfl
  have hmemos : ∀ c ∈ [first, second, faulty], c.memo < lab.memos.size := by
    simp [first, second, faulty, candidate, lab]
  obtain ⟨tried, s', htried, -, hattended⟩ :=
    evaluateAllWith_attends attempting hvalid hmemos (.ofInt 2) [1, 0, 1]
  refine ⟨tried, s', htried, ?_, ?_⟩
  · rcases hattended [] first _ rfl with h | ⟨d, hd, -⟩
    · exact h
    · cases hd
  · rcases hattended [first, second] faulty [] rfl with h | ⟨d, hd, hsame, -⟩
    · exact h
    · rcases List.mem_pair.mp hd with rfl | rfl <;> cases hsame

end Twins

end GeneticRepair
