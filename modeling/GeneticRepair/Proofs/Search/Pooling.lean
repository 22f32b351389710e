import GeneticRepair.Proofs.Candidate.Settling
import GeneticRepair.Search.Pool

/-!
# What a pool does

Whatever the schedule, a pool settles the memos of its candidates and nothing else. The schedule
that is over at once evaluates one candidate after another.
-/

namespace GeneticRepair

variable {R T G : Type} [Toolchain T] [Stepwise T] {suite : TestSuite} {k : Steady T suite}
  {s : Lab T G}

namespace Search

omit [Toolchain T] [Stepwise T] in
private theorem returns_await {rel : Lab T G → Lab T G → Prop} [IsPreorder (Lab T G) rel]
    {post : Nat → Lab T G → Prop}
    {threads : List (Thread (Lab T G) (Except Failure (Option TestRun)))}
    (h : ∀ (n : Nat) (thread : Thread (Lab T G) (Except Failure (Option TestRun))),
      threads[n]? = some thread →
        thread.Secures rel (fun r s' => (∃ result, r = .ok result) ∧ post n s') s) :
    ∃ s', Returns (await threads) s () s' ∧ rel s s' ∧ ∀ n < threads.length, post n s' := by
  induction threads generalizing s post with
  | nil => exact ⟨s, returns_pure.mpr ⟨rfl, rfl⟩, refl_of rel s, by simp⟩
  | cons thread threads ih =>
    obtain ⟨hrel, hpost⟩ := (h 0 thread rfl).finish
    obtain ⟨⟨result, hresult⟩, -⟩ := hpost _ (refl_of rel _)
    obtain ⟨s', hrest, hrel', hposts⟩ := ih fun n t ht => (h (n + 1) t ht).of_rel hrel
    refine ⟨s', returns_bind.mpr ⟨result, _, ?_, hrest⟩, trans_of rel hrel hrel', ?_⟩
    · rw [Returns, ← hresult]
      rfl
    · intro n hn
      cases n with
      | zero => exact (hpost s' hrel').2
      | succ n => exact hposts n (Nat.lt_of_succ_lt_succ hn)

variable {cs : List (Candidate R)}

/-- The pool returns, and the candidates have been evaluated. -/
theorem returns_evaluateInPool (schedule : List Nat) (hvalid : k.valid s.toolchain)
    (hsuite : ∀ c ∈ cs, c.suite = suite) (hseparate : Separate cs)
    (hmemos : ∀ c ∈ cs, ∃ g, s.gist? c.memo = some g) :
    ∃ s', Returns (evaluateInPool schedule cs) s () s' ∧ AllSettled k cs s s' := by
  have hthreads : ∀ (n : Nat) (thread : Thread (Lab T G) (Except Failure (Option TestRun))),
      (cs.map fun c => c.evaluation?.run)[n]? = some thread →
      thread.Secures (Settles k (dueIn cs)) (fun r s' => (∃ result, r = .ok result) ∧
        ∀ (c : Candidate R) g, cs[n]? = some c → s.gist? c.memo = some g →
          s'.gist? c.memo = some (k.settle c.program g)) s := by
    intro n thread hthread
    rw [List.getElem?_map] at hthread
    obtain ⟨c, hc, rfl⟩ := Option.map_eq_some_iff.mp hthread
    have hmem := List.mem_of_getElem? hc
    obtain ⟨g, hg⟩ := hmemos c hmem
    have hdue := dueIn_memo hseparate hmem
    refine (Candidate.secures_evaluation? (hsuite c hmem) hdue hvalid hg).mono ?_
    rintro _ s' ⟨result, rfl, hsettled⟩
    refine ⟨⟨_, rfl⟩, fun d g' hd hg' => ?_⟩
    obtain rfl := Option.some.inj (hc.symm.trans hd)
    obtain rfl := Option.some.inj (hg.symm.trans hg')
    exact hsettled.gist?_eq
  obtain ⟨hrel, hlength, hinterleaved⟩ := Thread.secures_interleave schedule hthreads
  obtain ⟨s', hreturns, hrel', hposts⟩ := returns_await hinterleaved
  refine ⟨s', hreturns, trans_of (Settles k (dueIn cs)) hrel hrel', ?_⟩
  intro c hc
  obtain ⟨g, hg⟩ := hmemos c hc
  obtain ⟨n, hn⟩ := List.getElem?_of_mem hc
  have hlt : n < cs.length := (List.getElem?_eq_some_iff.mp hn).1
  refine ⟨g, hg, hposts n ?_ c g hn hg⟩
  rwa [hlength, List.length_map]

/-! ## One after another -/

theorem await_evaluations (cs : List (Candidate R)) :
    (await (cs.map fun c => c.evaluation?.run) : Action T G Unit) =
      (do for c in cs do let _ ← c.evaluate?) := by
  induction cs with
  | nil => rfl
  | cons c cs ih =>
    have hc : Thread.complete (ExceptT.mk c.evaluation?.run) =
        (c.evaluate? : Action T G (Option TestRun)) :=
      Candidate.complete_evaluation? c
    rw [List.map_cons, await, hc, ih, List.forIn_cons]
    simp only [bind_assoc, pure_bind]

/-- Evaluating one after another comes to what a pool does. -/
theorem returns_evaluateEach (hvalid : k.valid s.toolchain) (hsuite : ∀ c ∈ cs, c.suite = suite)
    (hseparate : Separate cs) (hmemos : ∀ c ∈ cs, ∃ g, s.gist? c.memo = some g) :
    ∃ s', Returns (do for c in cs do let _ ← c.evaluate?) s () s' ∧ AllSettled k cs s s' := by
  rw [← await_evaluations]
  exact returns_evaluateInPool [] hvalid hsuite hseparate hmemos

end Search

end GeneticRepair
