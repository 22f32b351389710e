import GeneticRepair.Proofs.Candidate.Steps
import GeneticRepair.Proofs.Search.Course
import GeneticRepair.Search.Pool

/-!
# Steps of a search

A search is composed of the steps of its laboratory, of looks at its state, and of changes that do
not concern the laboratory; so is one with several threads, whatever the schedules.
-/

namespace GeneticRepair

variable {R T G α β : Type}

namespace Search

/-! ## Evaluation of populations -/

private theorem composed_unevaluated (cs : List (Candidate R)) :
    Composed (Lab.Step (T := T) (G := G)) (List (Candidate R)) (unevaluated cs) :=
  Composed.filterM fun c _ => c.composed_isEvaluated.then fun _ => .pure _

private theorem composed_evaluateEach [Toolchain T] (cs : List (Candidate R)) :
    Composed (Lab.Step (T := T) (G := G)) Unit (do for c in cs do let _ ← c.evaluate?) :=
  (Composed.forIn fun c _ => c.composed_evaluate?).then fun _ => .pure _

private theorem composed_evaluateAll [Toolchain T] (cs : List (Candidate R)) :
    Composed (Lab.Step (T := T) (G := G)) Unit (evaluateAll cs) :=
  (composed_unevaluated cs).then fun pending => composed_evaluateEach (distinct pending)

private theorem composed_complete {thread : Thread (Lab T G) (Except Failure α)}
    (h : thread.Takes Lab.Quiet) : Composed Lab.Step α (Thread.complete (ExceptT.mk thread)) := by
  induction thread with
  | done r =>
    cases r with
    | ok a => exact .pure a
    | error e => exact .throw e
  | step next update ih =>
    have hstep : Thread.complete (ExceptT.mk (.step next update)) =
        (ExceptT.lift (Thread.step next update).advance >>= fun rest =>
          Thread.complete (ExceptT.mk rest) : Action T G α) := rfl
    rw [hstep]
    apply Composed.bind (.atom (.thread _ h))
    intro s rest t hrest
    obtain ⟨rfl, -⟩ : next s = rest ∧ update s = t := by
      cases hrest
      exact ⟨rfl, rfl⟩
    exact ih s (h s).2

private theorem composed_await {threads : List (Thread (Lab T G) (Except Failure (Option TestRun)))}
    (h : ∀ thread ∈ threads, thread.Takes Lab.Quiet) : Composed Lab.Step Unit (await threads) := by
  induction threads with
  | nil => exact .pure _
  | cons thread threads ih =>
    apply (composed_complete (h thread List.mem_cons_self)).then
    intro _
    exact ih fun t ht => h t (List.mem_cons_of_mem thread ht)

private theorem composed_interleave (schedule : List Nat)
    {threads : List (Thread (Lab T G) (Except Failure (Option TestRun)))}
    (h : ∀ thread ∈ threads, thread.Takes Lab.Quiet) :
    Composed Lab.Step Unit (ExceptT.lift (Thread.interleave schedule threads) >>= await) := by
  induction schedule generalizing threads with
  | nil => exact composed_await h
  | cons i schedule ih =>
    cases hi : threads[i]? with
    | none =>
      simp only [Thread.interleave, hi]
      exact ih h
    | some thread =>
      have hthread := h thread (List.mem_of_getElem? hi)
      have hrun : (ExceptT.lift (Thread.interleave (i :: schedule) threads) >>= await) =
          (ExceptT.lift thread.advance >>= fun t =>
            ExceptT.lift (Thread.interleave schedule (threads.set i t)) >>= await :
            Action T G Unit) := by
        rw [Thread.interleave, hi]
        rfl
      rw [hrun]
      apply Composed.bind (.atom (.thread thread hthread))
      intro s t u ht
      apply ih
      intro other hother
      rcases List.mem_or_eq_of_mem_set hother with hother | rfl
      · exact h other hother
      · cases ht
        exact hthread.advance s

private theorem composed_evaluateInPool [Toolchain T] [Stepwise T] (schedule : List Nat)
    (cs : List (Candidate R)) :
    Composed (Lab.Step (T := T) (G := G)) Unit (evaluateInPool schedule cs) := by
  have hthreads : ∀ thread ∈ cs.map fun c => c.evaluation?.run,
      thread.Takes (Lab.Quiet (T := T) (G := G)) := by
    intro thread hthread
    obtain ⟨c, -, rfl⟩ := List.mem_map.mp hthread
    exact c.takes_evaluation?
  exact composed_interleave schedule hthreads

theorem composed_evaluateAllWith [Toolchain T] [Stepwise T] (threads : Quantity)
    (schedule : List Nat) (cs : List (Candidate R)) :
    Composed (Lab.Step (T := T) (G := G)) Unit (evaluateAllWith threads schedule cs) := by
  apply (composed_unevaluated cs).then
  intro pending
  dsimp only
  split
  · exact composed_evaluateInPool schedule _
  · exact composed_evaluateEach _

/-! ## Populations -/

section Populations

variable [Toolchain T] [Scalar R] [RandomSource G] (settings : SearchSettings R)

omit [Toolchain T] [Scalar R] [RandomSource G] in
private theorem composed_count (q : Quantity) :
    Composed (Lab.Step (T := T) (G := G)) Int (count q) := by
  unfold count
  split
  · exact .pure _
  · exact .throw _

private theorem composed_compilableMutant (c : Candidate R) (attempts : Nat) :
    Composed (Lab.Step (T := T) (G := G)) (Candidate R) (compilableMutant c attempts) := by
  induction attempts with
  | zero => exact .pure _
  | succ attempts ih =>
    apply c.composed_mutate.then
    intro mutant
    apply mutant.composed_isCompilable.then
    intro compiles
    split
    · exact .pure _
    · exact ih

private theorem composed_mutant (c : Candidate R) :
    Composed (Lab.Step (T := T) (G := G)) (Candidate R) (mutant settings c) :=
  (composed_count _).then fun n => composed_compilableMutant c n.toNat

private theorem composed_fillWith (c : Candidate R) (missing : Nat) :
    Composed (Lab.Step (T := T) (G := G)) (List (Candidate R)) (fillWith settings c missing) := by
  induction missing with
  | zero => exact .pure _
  | succ missing ih =>
    apply (composed_mutant settings c).then
    intro d
    exact ih.then fun _ => .pure _

theorem composed_initial (c : Candidate R) :
    Composed (Lab.Step (T := T) (G := G)) (List (Candidate R)) (initial settings c) :=
  (composed_fillWith settings c _).then fun _ => .pure _

private theorem composed_selectOther (x y : Candidate R) (fuel : Nat) (pool : List (Candidate R)) :
    Composed (Lab.Step (T := T) (G := G)) (Candidate R)
      (selectOther Candidate.select x fuel y pool) := by
  induction fuel generalizing y pool with
  | zero => exact .pure _
  | succ fuel ih =>
    rw [selectOther]
    split
    · apply (Candidate.composed_select _).then
      intro z
      exact ih z _
    · exact .pure _

private theorem composed_parents (population : List (Candidate R)) :
    Composed (Lab.Step (T := T) (G := G)) (Candidate R × Candidate R)
      (parents Candidate.select population) := by
  apply (Candidate.composed_select _).then
  intro x
  apply (Candidate.composed_select _).then
  intro y
  exact (composed_selectOther x y _ _).then fun _ => .pure _

private theorem composed_breedUntil (population : List (Candidate R)) (fuel : Nat)
    (offspring : List (Candidate R)) :
    Composed (Lab.Step (T := T) (G := G)) (List (Candidate R))
      (breedUntil settings Candidate.select population fuel offspring) := by
  induction fuel generalizing offspring with
  | zero => exact .pure _
  | succ fuel ih =>
    rw [breedUntil]
    split
    · apply (composed_parents population).then
      intro xy
      apply (xy.1.composed_crossover xy.2).then
      intro uv
      apply (Composed.filterM fun c _ => c.composed_isCompilable).then
      intro children
      exact ih _
    · exact .pure _

private theorem composed_breed (population : List (Candidate R)) :
    Composed (Lab.Step (T := T) (G := G)) (List (Candidate R)) (breed settings population) := by
  apply (composed_breedUntil settings population _ _).then
  intro offspring
  exact (composed_count _).then fun _ => .pure _

private theorem composed_mutateSome (population : List (Candidate R)) :
    Composed (Lab.Step (T := T) (G := G)) (List (Candidate R)) (mutateSome settings population) := by
  apply Composed.mapM
  intro c _
  apply (Candidate.composed_happens _).then
  intro happens
  split
  · exact composed_mutant settings c
  · exact .pure _

end Populations

/-! ## Whole searches -/

/-- The steps of a search. -/
inductive Step : Actions Failure (Search R T G)
  | get : Step _ get
  | lab {α : Type} {act : Action T G α} (h : Lab.Step α act) : Step α (inLab act)
  | outside (f : Search R T G → Search R T G) (h : ∀ s, (f s).lab = s.lab) : Step _ (modify f)

private theorem run_inLab (act : Action T G α) (s : Search R T G) :
    (inLab act : Searching R T G α).run.run s =
      ((act.run.run s.lab).1, { s with lab := (act.run.run s.lab).2 }) :=
  rfl

private theorem run_inLab_error {act : Action T G α} {s : Search R T G} {e : Failure} {lab : Lab T G}
    (h : act.run.run s.lab = (.error e, lab)) :
    (inLab act : Searching R T G α).run.run s = (.error e, { s with lab }) := by
  rw [run_inLab, h]

private theorem inLab_bind (x : Action T G α) (f : α → Action T G β) :
    (inLab (x >>= f) : Searching R T G β) = inLab x >>= fun a => inLab (f a) := by
  apply ExceptT.ext
  funext s
  show (inLab (x >>= f)).run.run s = (inLab x >>= fun a => inLab (f a)).run.run s
  rw [run_inLab]
  rcases hx : x.run.run s.lab with ⟨e | a, lab⟩
  · rw [run_bind_error (run_inLab_error hx), run_bind_error hx]
  · have hreturns : Returns (inLab x : Searching R T G α) s a { s with lab } :=
      returns_inLab.mpr ⟨lab, hx, rfl⟩
    rw [hreturns.run_bind, Returns.run_bind hx]
    rfl

private theorem inLab_tryCatch (x : Action T G α) (handler : Failure → Action T G α) :
    (inLab (MonadExcept.tryCatch x handler) : Searching R T G α) =
      MonadExcept.tryCatch (inLab x) fun e => inLab (handler e) := by
  apply ExceptT.ext
  funext s
  show (inLab (MonadExcept.tryCatch x handler)).run.run s =
    (MonadExcept.tryCatch (inLab x) fun e => inLab (handler e)).run.run s
  rw [run_inLab]
  rcases hx : x.run.run s.lab with ⟨e | a, lab⟩
  · rw [run_tryCatch_error (run_inLab_error hx), run_tryCatch_error hx]
    rfl
  · have hreturns : Returns (inLab x : Searching R T G α) s a { s with lab } :=
      returns_inLab.mpr ⟨lab, hx, rfl⟩
    rw [Returns.tryCatch hreturns, Returns.tryCatch hx]

theorem composed_inLab {act : Action T G α} (h : Composed Lab.Step α act) :
    Composed (Step (R := R)) α (inLab act) := by
  induction h with
  | atom h => exact .atom (.lab h)
  | pure a => exact .pure a
  | throw e => exact .throw e
  | bind _ _ ihfirst ihrest =>
    rw [inLab_bind]
    apply Composed.bind ihfirst
    intro s a t hreturns
    obtain ⟨lab, hx, -⟩ := returns_inLab.mp hreturns
    exact ihrest s.lab a lab hx
  | tryCatch _ _ ihfirst ihrest =>
    rw [inLab_tryCatch]
    exact ihfirst.tryCatch ihrest

theorem composed_report (e : Event R) :
    Composed (Step (T := T) (G := G)) Unit (report e) :=
  .atom (.outside _ fun _ => rfl)

private theorem composed_enter (state : SearchState) :
    Composed (Step (R := R) (T := T) (G := G)) Unit (enter state) :=
  .atom (.outside _ fun _ => rfl)

theorem composed_setBest (c : Candidate R) (fitness : R) :
    Composed (Step (T := T) (G := G)) Unit (setBest c fitness) :=
  .atom (.outside _ fun _ => rfl)

section Searches

variable [Toolchain T] [Scalar R]

private theorem composed_scoreAll (generation : Int) (population : List (Candidate R)) :
    Composed (Step (T := T) (G := G)) (Option (Candidate R)) (scoreAll generation population) := by
  induction population with
  | nil => exact .pure _
  | cons c cs ih =>
    apply (composed_inLab c.composed_fitness).then
    intro r
    apply (composed_inLab c.composed_isRepair).then
    intro isRepair
    apply (composed_report _).then
    intro _
    split
    · apply (composed_setBest c r).then
      intro _
      exact (composed_report _).then fun _ => .pure _
    · apply (Composed.atom .get).then
      intro s
      have hset := (composed_setBest c r).then fun _ => ih
      cases s.best with
      | none => exact hset
      | some best =>
        dsimp only
        split
        · exact hset
        · exact ih

private theorem composed_evaluateGenerationBy {evaluate : List (Candidate R) → Action T G Unit}
    {population : List (Candidate R)} (hevaluate : Composed Lab.Step Unit (evaluate population))
    (generation : Int) :
    Composed (Step (T := T) (G := G)) (Option (Candidate R))
      (evaluateGenerationBy evaluate population generation) := by
  apply (composed_enter _).then
  intro _
  apply (composed_inLab hevaluate).then
  intro _
  apply (composed_scoreAll generation population).then
  intro repair
  split
  · exact .pure _
  · apply (Composed.atom .get).then
    intro s
    split
    · exact .throw _
    · exact (composed_report _).then fun _ => .pure _

private theorem composed_finish (state : SearchState) (c : Candidate R) (generations : Quantity) :
    Composed (Step (T := T) (G := G)) (SearchResult R) (finish state c generations) := by
  apply (composed_enter _).then
  intro _
  apply (composed_inLab c.composed_fitness).then
  intro r
  exact (composed_inLab c.composed_isRepair).then fun _ => .pure _

private theorem composed_giveUp (state : SearchState) (generations : Quantity) :
    Composed (Step (R := R) (T := T) (G := G)) (SearchResult R) (giveUp state generations) := by
  apply (Composed.atom .get).then
  intro s
  split
  · exact composed_finish _ _ _
  · exact .throw _

variable [RandomSource G] (settings : SearchSettings R)

private theorem composed_advance (population : List (Candidate R)) (generation : Int) :
    Composed (Step (T := T) (G := G)) (Option (List (Candidate R)))
      (advance settings population generation) := by
  apply (composed_inLab (Composed.filterM fun c _ => c.composed_isCompilable)).then
  intro compilable
  split
  · exact .pure _
  · apply (composed_enter _).then
    intro _
    apply (composed_inLab (composed_breed settings _)).then
    intro bred
    apply (composed_enter _).then
    intro _
    apply (composed_inLab (composed_mutateSome settings _)).then
    intro next
    exact (composed_report _).then fun _ => .pure _

private theorem composed_launch (seed : Candidate R) :
    Composed (Step (T := T) (G := G)) (List (Candidate R)) (launch settings seed) := by
  apply (composed_enter _).then
  intro _
  apply (composed_inLab (composed_evaluateAll [seed])).then
  intro _
  apply (composed_setBest seed Scalar.origin).then
  intro _
  apply (composed_inLab seed.composed_fitness).then
  intro r
  apply (composed_setBest seed r).then
  intro _
  apply (composed_inLab (composed_initial settings seed)).then
  intro population
  exact (composed_report _).then fun _ => .pure _

variable {evaluate : Int → List (Candidate R) → Action T G Unit}
  (hevaluate : ∀ generation population, Composed Lab.Step Unit (evaluate generation population))
include hevaluate

private theorem composed_generationsBy (population : List (Candidate R)) (generation : Int)
    (left : Nat) :
    Composed (Step (T := T) (G := G)) (SearchResult R)
      (generationsBy settings evaluate population generation left) := by
  induction left generalizing population generation with
  | zero => exact composed_giveUp _ _
  | succ left ih =>
    apply (composed_advance settings population generation).then
    intro next
    split
    · exact composed_giveUp _ _
    · apply (composed_evaluateGenerationBy (hevaluate generation _) generation).then
      intro repair
      split
      · exact composed_finish _ _ _
      · exact ih _ _

/-- The search after its launch. -/
theorem composed_firstGeneration (population : List (Candidate R)) :
    Composed (Step (T := T) (G := G)) (SearchResult R) (do
      match ← evaluateGenerationBy (evaluate 0) population 0 with
      | some repair => finish .terminatedSuccess repair (.ofInt 0)
      | none =>
        let limit ← inLab (count settings.numGenerations)
        generationsBy settings evaluate population 1 limit.toNat) := by
  apply (composed_evaluateGenerationBy (hevaluate 0 population) 0).then
  intro repair
  split
  · exact composed_finish _ _ _
  · apply (composed_inLab (composed_count _)).then
    intro limit
    exact composed_generationsBy settings hevaluate population 1 limit.toNat

private theorem composed_runBy (seed : Candidate R) :
    Composed (Step (T := T) (G := G)) (SearchResult R) (runBy settings evaluate seed) :=
  (composed_launch settings seed).then (composed_firstGeneration settings hevaluate)

private theorem composed_searchBy (seed : Candidate R) :
    Composed (Step (T := T) (G := G)) (SearchResult R) (searchBy settings evaluate seed) := by
  apply (Composed.atom .get).then
  intro s
  split
  · exact .throw _
  · apply (Composed.atom (.outside _ fun _ => rfl)).then
    intro _
    apply (composed_report _).then
    intro _
    apply (composed_runBy settings hevaluate seed).then
    intro result
    exact (composed_report _).then fun _ => .pure _

omit hevaluate in
/-- Searches with several threads are composed of steps, whatever the schedules. -/
theorem composed_searchInPool [Stepwise T] (schedules : Int → List Nat) (seed : Candidate R) :
    Composed (Step (T := T) (G := G)) (SearchResult R) (searchInPool schedules settings seed) :=
  composed_searchBy settings (fun _ _ => composed_evaluateAllWith _ _ _) seed

end Searches

end Search

end GeneticRepair
