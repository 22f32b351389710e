import GeneticRepair.Proofs.Search.Generation

/-!
# The chronicle of a search

What a search with a coherent toolchain reports and returns, generation by generation. The chronicle
mentions no state but the last ledger, so whatever is said of whole searches is proved over it.
-/

namespace GeneticRepair.Search

variable {R T G : Type} [Toolchain T] [Scalar R] {seed : Candidate R}

/-- From the evaluation of a population to the result: the number of generations that may follow,
the number of this one, the best candidate so far, the population, the populations that are
evaluated, the events, the result, and the last state. -/
inductive Chronicle (settings : SearchSettings R) (k : Coherence T seed.suite) (w : Ledger) :
    Nat → Int → Candidate R × R → List (Candidate R) → List (List (Candidate R)) → List (Event R) →
      SearchResult R → SearchState → Prop
  | solved {left generation best} (scored : List (Candidate R × R)) (c : Candidate R) (r : R)
      (rest : List (Candidate R)) (rejects : k.Rejects w scored) (score : k.Scored w c r)
      (repairs : k.Repairs c.program) :
      Chronicle settings k w left generation best (scored.map Prod.fst ++ c :: rest)
        [scored.map Prod.fst ++ c :: rest]
        (rejections generation scored ++
          [.candidateEvaluated c generation r true, .repairFound c generation])
        ⟨c, r, true, .ofInt generation, Scalar.origin⟩ .terminatedSuccess
  | limited {generation best best'} (scored : List (Candidate R × R))
      (rejects : k.Rejects w scored) (isBest : scored.foldl better best = best') :
      Chronicle settings k w 0 generation best (scored.map Prod.fst) [scored.map Prod.fst]
        (rejections generation scored ++ [.generationFinished generation best'.1 best'.2])
        ⟨best'.1, best'.2, false, settings.numGenerations, Scalar.origin⟩ .terminatedMaxGenerations
  | exhausted {left generation best best'} (scored : List (Candidate R × R))
      (rejects : k.Rejects w scored) (isBest : scored.foldl better best = best')
      (broken : ∀ c ∈ scored.map Prod.fst, k.compiles c.program = false) :
      Chronicle settings k w (left + 1) generation best (scored.map Prod.fst) [scored.map Prod.fst]
        (rejections generation scored ++ [.generationFinished generation best'.1 best'.2])
        ⟨best'.1, best'.2, false, .ofInt generation, Scalar.origin⟩ .terminatedExhausted
  | continued {left generation best best' next populations events result state}
      (scored : List (Candidate R × R)) (rejects : k.Rejects w scored)
      (isBest : scored.foldl better best = best')
      (size : ∃ n, settings.populationSize.int? = some n ∧ next.length = n.toNat)
      (compiles : ∀ c ∈ next, k.compiles c.program)
      (rest : Chronicle settings k w left (generation + 1) best' next populations events result
        state) :
      Chronicle settings k w (left + 1) generation best (scored.map Prod.fst)
        (scored.map Prod.fst :: populations)
        (rejections generation scored ++ .generationFinished generation best'.1 best'.2 ::
          .generationStarted (generation + 1) next.length :: events) result state

variable {settings : SearchSettings R} {k : Coherence T seed.suite} {w : Ledger} {left : Nat}
  {generation : Int} {best : Candidate R × R} {population : List (Candidate R)}
  {populations : List (List (Candidate R))} {result : SearchResult R}

theorem Chronicle.repairs {events : List (Event R)} {state : SearchState}
    (h : Chronicle settings k w left generation best population populations events result state)
    (hrepair : result.isRepair = true) :
    k.Scored w result.candidate result.fitness ∧ k.Repairs result.candidate.program := by
  induction h with
  | solved _ _ _ _ _ score repairs => exact ⟨score, repairs⟩
  | limited => exact nomatch hrepair
  | exhausted => exact nomatch hrepair
  | continued _ _ _ _ _ _ ih => exact ih hrepair

variable [RandomSource G] {s s' : Search R T G}

private theorem Course.chronicle
    (h : Course settings left generation population s populations result s')
    (hs : k.Sound w s.lab) (hpop : ∀ c ∈ population, seed.Enrolled w c) (hbest : s.best = some best)
    (hleads : Leads k w population best) :
    ∃ w' events, w ≤ w' ∧ k.Sound w' s'.lab ∧ s'.events = s.events ++ events ∧
      Chronicle settings k w' left generation best population populations events result
        s'.state := by
  induction h generalizing w best with
  | solved evaluated finished =>
    obtain ⟨w₁, best', events, hw₁, hs₁, -, hassess, hevents⟩ :=
      evaluateGeneration_assessment evaluated hs hpop hbest
    cases hassess with
    | solved scored c r rest members rejects score repairs =>
      subst members
      have hc := (hpop _ (List.mem_append_right _ List.mem_cons_self)).mono hw₁
      obtain ⟨w₂, verdict, hw₂, hs₂, hstate, hevents', rfl, hverdict⟩ :=
        finish_eq finished hs₁ hc score
      obtain rfl := hverdict.mpr repairs
      rw [closing, List.append_nil] at hevents
      refine ⟨w₂, _, hw₁.trans hw₂, hs₂, hevents'.trans hevents, ?_⟩
      rw [hstate]
      exact .solved scored _ r rest (rejects.mono hw₂) (score.mono hw₂) repairs
  | limited evaluated finished =>
    obtain ⟨w₁, scored, best', hw₁, hs₁, rfl, hrejects, hfold, hbest₁, hevents, hc, hr, hno⟩ :=
      evaluateGeneration_unsolved evaluated hs hpop hbest hleads
    obtain ⟨w₂, verdict, hw₂, hs₂, hstate, hevents', rfl, hverdict⟩ :=
      giveUp_eq finished hs₁ hbest₁ hc hr
    obtain rfl : verdict = false := by
      simpa using mt hverdict.mp hno
    refine ⟨w₂, _, hw₁.trans hw₂, hs₂, hevents'.trans hevents, ?_⟩
    rw [hstate]
    exact .limited scored (hrejects.mono hw₂) hfold
  | exhausted evaluated advanced finished =>
    obtain ⟨w₁, scored, best', hw₁, hs₁, rfl, hrejects, hfold, hbest₁, hevents, hc, hr, hno⟩ :=
      evaluateGeneration_unsolved evaluated hs hpop hbest hleads
    obtain ⟨w₂, hw₂, hs₂, hbest₂, hevents₂, hbroken⟩ :=
      advance_none advanced hs₁ fun c hc => (hpop c hc).mono hw₁
    obtain ⟨w₃, verdict, hw₃, hs₃, hstate, hevents', rfl, hverdict⟩ :=
      giveUp_eq finished hs₂ (hbest₂.trans hbest₁) (hc.mono hw₂) (hr.mono hw₂)
    obtain rfl : verdict = false := by
      simpa using mt hverdict.mp hno
    refine ⟨w₃, _, (hw₁.trans hw₂).trans hw₃, hs₃, hevents'.trans (hevents₂.trans hevents), ?_⟩
    rw [hstate]
    exact .exhausted scored (hrejects.mono (hw₂.trans hw₃)) hfold hbroken
  | continued evaluated advanced rest ih =>
    obtain ⟨w₁, scored, best', hw₁, hs₁, rfl, hrejects, hfold, hbest₁, hevents, hc, hr, hno⟩ :=
      evaluateGeneration_unsolved evaluated hs hpop hbest hleads
    obtain ⟨w₂, hw₂, hs₂, hbest₂, hevents₂, hsize, hnext⟩ :=
      advance_some advanced hs₁ fun c hc => (hpop c hc).mono hw₁
    obtain ⟨w₃, events, hw₃, hs₃, hevents₃, hchronicle⟩ :=
      ih hs₂ (fun c hc => (hnext c hc).1) (hbest₂.trans hbest₁)
        ⟨hc.mono hw₂, hr.mono hw₂, fun hyes => absurd hyes hno⟩
    refine ⟨w₃, _, (hw₁.trans hw₂).trans hw₃, hs₃, ?_,
      .continued scored (hrejects.mono (hw₂.trans hw₃)) hfold hsize (fun c hc => (hnext c hc).2)
        hchronicle⟩
    simp [hevents₃, hevents₂, hevents]

/-- A search from a laboratory that is ready for it has a chronicle, which begins with the fitness
of the seed. -/
theorem Evaluates.chronicle {lab : Lab T G} (h : Evaluates settings seed lab populations result s')
    (hready : k.Ready lab) :
    ∃ w r lab' left population mutants events, Returns seed.fitness lab r lab' ∧
      k.Sound w s'.lab ∧ k.Scored w seed r ∧ population = seed :: mutants ∧
      mutants.length = settings.populationSize.ceiling - 1 ∧
      (∀ n, settings.numGenerations.int? = some n → left = n.toNat) ∧
      Chronicle settings k w left 0 (seed, r) population populations events result s'.state ∧
      s'.events = .searchStarted seed :: .generationStarted 0 population.length :: events ++
        [.searchFinished result] := by
  obtain ⟨w₀, hs₀, hbase, hseed⟩ := hready.exists_ledger
  obtain ⟨hlaunch, hcourse, hlimit, rfl⟩ := h
  obtain ⟨w₁, r, hw₁, hs₁, hr, hsettle, hbest, hevents, ⟨mutants, rfl, hlen⟩, hpop⟩ :=
    launch_eq hlaunch hs₀ hseed
  obtain ⟨r, lab', hfitness, -, -, -, rfl⟩ := Candidate.achieves_fitness hseed hr lab hs₀
  have hleads : Leads k w₁ (seed :: mutants) (seed, r) :=
    ⟨hseed.mono hw₁, hr.mono hsettle, fun _ => List.mem_cons_self⟩
  obtain ⟨w₂, events, hw₂, hs₂, hevents₂, hchronicle⟩ := hcourse.chronicle hs₁ hpop hbest hleads
  refine ⟨w₂, _, lab', _, _, mutants, events, hfitness, hs₂, (hr.mono hsettle).mono hw₂, rfl, hlen,
    hlimit, hchronicle, ?_⟩
  simp [hevents₂, hevents]

end GeneticRepair.Search
