import GeneticRepair.Proofs.Candidate.Exact
import GeneticRepair.Proofs.Search.Chronicle
import GeneticRepair.Proofs.Toolchain.Simulation

/-!
# The best candidate of a search

In exact arithmetic the best fitness that a search reports never falls, and the result is at least
as fit as whatever has been scored. Without a repair it is the first candidate of the greatest
fitness, the seed being the first of all.
-/

namespace GeneticRepair

variable {R T G K : Type}

namespace Event

/-- The candidate and the fitness that an evaluation reports. -/
def evaluated? : Event R → Option (Candidate R × R)
  | candidateEvaluated c _ fitness _ => some (c, fitness)
  | _ => none

/-- The best fitness so far that the end of a generation reports. -/
def bestFitness? : Event R → Option R
  | generationFinished _ _ fitness => some fitness
  | _ => none

end Event

namespace Search

private theorem filterMap_evaluated?_rejections (generation : Int)
    (scored : List (Candidate R × R)) :
    (rejections generation scored).filterMap Event.evaluated? = scored := by
  induction scored with
  | nil => rfl
  | cons x scored ih => exact congrArg (x :: ·) ih

private theorem filterMap_bestFitness?_rejections (generation : Int)
    (scored : List (Candidate R × R)) :
    (rejections generation scored).filterMap Event.bestFitness? = [] := by
  simp [rejections, Event.bestFitness?]

variable [LinearOrder K] (value : R → K)

/-- The candidate is the first of the greatest fitness. -/
def FirstBest (scored : List (Candidate R × R)) (best : Candidate R × R) : Prop :=
  ∃ before after, scored = before ++ best :: after ∧ (∀ x ∈ before, value x.2 < value best.2) ∧
    ∀ x ∈ after, value x.2 ≤ value best.2

variable {value} {scored known : List (Candidate R × R)} {best x : Candidate R × R}

private theorem FirstBest.mem (h : FirstBest value scored best) : best ∈ scored := by
  obtain ⟨before, after, rfl, -, -⟩ := h
  simp

private theorem FirstBest.value_le (h : FirstBest value scored best) :
    ∀ x ∈ scored, value x.2 ≤ value best.2 := by
  obtain ⟨before, after, rfl, hbefore, hafter⟩ := h
  intro x hx
  rcases List.mem_append.mp hx with hx | hx
  · exact (hbefore x hx).le
  · rcases List.mem_cons.mp hx with rfl | hx
    · exact le_rfl
    · exact hafter x hx

variable [Scalar R]

private theorem FirstBest.better (h : FirstBest value known best)
    (hless : Scalar.less best.2 x.2 = true ↔ value best.2 < value x.2) :
    FirstBest value (known ++ [x]) (better best x) := by
  unfold Search.better
  split
  · rename_i hlt
    have hx := hless.mp hlt
    exact ⟨known, [], rfl, fun y hy => (h.value_le y hy).trans_lt hx, by simp⟩
  · rename_i hnot
    have hx : value x.2 ≤ value best.2 := not_lt.mp fun hlt => hnot (hless.mpr hlt)
    obtain ⟨before, after, rfl, hbefore, hafter⟩ := h
    refine ⟨before, after ++ [x], by simp, hbefore, fun y hy => ?_⟩
    rcases List.mem_append.mp hy with hy | hy
    · exact hafter y hy
    · rw [List.mem_singleton.mp hy]
      exact hx

variable [Semiring K] {size : Nat} {weights : Weights R}

private theorem FirstBest.foldl_better (hexact : weights.Exact size value)
    (h : FirstBest value known best)
    (hknown : ∀ x ∈ known, weights.Attains size x.2)
    (hscored : ∀ x ∈ scored, weights.Attains size x.2) :
    FirstBest value (known ++ scored) (scored.foldl Search.better best) := by
  induction scored generalizing known best with
  | nil => simpa using h
  | cons x scored ih =>
    have hx := hscored x (by simp)
    have hbetter := h.better (hexact.less _ _ (hknown best h.mem) hx)
    have hall : ∀ y ∈ known ++ [x], weights.Attains size y.2 := by
      intro y hy
      rcases List.mem_append.mp hy with hy | hy
      · exact hknown y hy
      · exact List.mem_singleton.mp hy ▸ hx
    have hrest := ih hbetter hall fun y hy => hscored y (List.mem_cons_of_mem x hy)
    rwa [List.append_assoc] at hrest

/-! ## Along a chronicle -/

variable [Toolchain T] {seed : Candidate R} {settings : SearchSettings R}
  {k : Coherence T seed.suite} {w : Ledger} {left : Nat} {generation : Int}
  {population : List (Candidate R)} {populations : List (List (Candidate R))}
  {events : List (Event R)} {result : SearchResult R} {state : SearchState} {lab : Lab T G}

private theorem FirstBest.append_rejected (hs : k.Sound w lab)
    (hexact : seed.strategies.weights.Exact seed.suite.names.length value)
    (h : FirstBest value known best) (hknown : ∀ x ∈ known, k.Scored w x.1 x.2)
    (hrejects : k.Rejects w scored) :
    FirstBest value (known ++ scored) (scored.foldl Search.better best) :=
  h.foldl_better hexact (fun x hx => (hknown x hx).attains hs)
    fun x hx => (hrejects x hx).1.attains hs

private theorem value_le_foldl_better (hs : k.Sound w lab)
    (hexact : seed.strategies.weights.Exact seed.suite.names.length value)
    (hbest : k.Scored w best.1 best.2) (hrejects : k.Rejects w scored) :
    value best.2 ≤ value (scored.foldl Search.better best).2 ∧
      k.Scored w (scored.foldl Search.better best).1 (scored.foldl Search.better best).2 := by
  have hfirst : FirstBest value [best] best := ⟨[], [], rfl, by simp, by simp⟩
  have hbetter := hfirst.append_rejected hs hexact (by simpa using hbest) hrejects
  refine ⟨hbetter.value_le best (by simp), ?_⟩
  rcases foldl_better_mem scored best with heq | hmem
  · rwa [heq]
  · exact (hrejects _ hmem).1

omit [LinearOrder K] [Semiring K] in
private theorem Chronicle.scored_of_mem
    (h : Chronicle settings k w left generation best population populations events result state) :
    ∀ x ∈ events.filterMap Event.evaluated?, k.Scored w x.1 x.2 := by
  induction h with
  | solved scored c r _ rejects score =>
    intro x hx
    simp only [List.filterMap_append, filterMap_evaluated?_rejections, List.mem_append] at hx
    rcases hx with hx | hx
    · exact (rejects x hx).1
    · obtain rfl : x = (c, r) := by simpa [Event.evaluated?] using hx
      exact score
  | limited scored rejects =>
    intro x hx
    simp only [List.filterMap_append, filterMap_evaluated?_rejections, List.mem_append] at hx
    rcases hx with hx | hx
    · exact (rejects x hx).1
    · cases hx
  | exhausted scored rejects =>
    intro x hx
    simp only [List.filterMap_append, filterMap_evaluated?_rejections, List.mem_append] at hx
    rcases hx with hx | hx
    · exact (rejects x hx).1
    · cases hx
  | continued scored rejects _ _ _ _ ih =>
    intro x hx
    simp only [List.filterMap_append, filterMap_evaluated?_rejections, List.mem_append] at hx
    exact hx.elim (fun hx => (rejects x hx).1) (ih x)

/-- Without a repair the result is the first of the fittest, among the candidates that were known
and those that are evaluated. -/
theorem Chronicle.firstBest (hs : k.Sound w lab)
    (hexact : seed.strategies.weights.Exact seed.suite.names.length value)
    (h : Chronicle settings k w left generation best population populations events result state)
    (hbest : FirstBest value known best) (hknown : ∀ x ∈ known, k.Scored w x.1 x.2)
    (hrepair : result.isRepair = false) :
    FirstBest value (known ++ events.filterMap Event.evaluated?)
      (result.candidate, result.fitness) := by
  induction h generalizing known with
  | solved => exact nomatch hrepair
  | limited scored rejects isBest =>
    simpa [filterMap_evaluated?_rejections, List.filterMap_cons, Event.evaluated?, isBest]
      using hbest.append_rejected hs hexact hknown rejects
  | exhausted scored rejects isBest =>
    simpa [filterMap_evaluated?_rejections, List.filterMap_cons, Event.evaluated?, isBest]
      using hbest.append_rejected hs hexact hknown rejects
  | continued scored rejects isBest _ _ _ ih =>
    have hnext := hbest.append_rejected hs hexact hknown rejects
    rw [isBest] at hnext
    have hall : ∀ x ∈ known ++ scored, k.Scored w x.1 x.2 := fun x hx =>
      (List.mem_append.mp hx).elim (hknown x) fun hx => (rejects x hx).1
    simpa [filterMap_evaluated?_rejections, List.filterMap_cons, Event.evaluated?]
      using ih hnext hall hrepair

/-- The best fitness so far never falls. -/
theorem Chronicle.pairwise_bestFitness (hs : k.Sound w lab)
    (hexact : seed.strategies.weights.Exact seed.suite.names.length value)
    (h : Chronicle settings k w left generation best population populations events result state)
    (hbest : k.Scored w best.1 best.2) :
    (best.2 :: events.filterMap Event.bestFitness?).Pairwise fun r s => value r ≤ value s := by
  induction h with
  | solved => simp [filterMap_bestFitness?_rejections, List.filterMap_cons, Event.bestFitness?]
  | limited scored rejects isBest =>
    have hle := (value_le_foldl_better hs hexact hbest rejects).1
    rw [isBest] at hle
    simpa [filterMap_bestFitness?_rejections, List.filterMap_cons, Event.bestFitness?] using hle
  | exhausted scored rejects isBest =>
    have hle := (value_le_foldl_better hs hexact hbest rejects).1
    rw [isBest] at hle
    simpa [filterMap_bestFitness?_rejections, List.filterMap_cons, Event.bestFitness?] using hle
  | continued scored rejects isBest _ _ _ ih =>
    obtain ⟨hle, hnext⟩ := value_le_foldl_better hs hexact hbest rejects
    rw [isBest] at hle hnext
    have hrest := ih hnext
    simp only [List.filterMap_append, filterMap_bestFitness?_rejections, List.nil_append,
      List.filterMap_cons, Event.bestFitness?]
    refine List.pairwise_cons.mpr ⟨fun r hr => ?_, hrest⟩
    rcases List.mem_cons.mp hr with rfl | hr
    · exact hle
    · exact hle.trans ((List.pairwise_cons.mp hrest).1 r hr)

/-! ## Whole searches -/

variable [IsStrictOrderedRing K] [RandomSource G]

/-- What a search reports of the best fitness never falls, and its result is as good as whatever it
has scored; without a repair it is the first of the best. -/
theorem result_firstBest {s' : Search R T G} (k : Coherence T seed.suite) (hready : k.Ready lab)
    (hexact : seed.strategies.weights.Exact seed.suite.names.length value)
    (h : Returns (search settings seed) (.new lab) result s') :
    ∃ r lab', Returns seed.fitness lab r lab' ∧
      (r :: s'.events.filterMap Event.bestFitness?).Pairwise (fun r s => value r ≤ value s) ∧
      (∀ x ∈ s'.events.filterMap Event.evaluated?, value x.2 ≤ value result.fitness) ∧
      (result.isRepair = false →
        FirstBest value ((seed, r) :: s'.events.filterMap Event.evaluated?)
          (result.candidate, result.fitness)) := by
  obtain ⟨populations, hevaluates⟩ := exists_evaluates h
  obtain ⟨w, r, lab', left, population, mutants, events, hfitness, hs, hseed, -, -, -, hchronicle,
    hevents⟩ := hevaluates.chronicle hready
  have hbests := hchronicle.pairwise_bestFitness hs hexact hseed
  have hknown : FirstBest value [(seed, r)] (seed, r) := ⟨[], [], rfl, by simp, by simp⟩
  have hfirst := hchronicle.firstBest hs hexact hknown (by simpa using hseed)
  refine ⟨r, lab', hfitness, ?_, ?_, ?_⟩
  · simpa [hevents, List.filterMap_cons, Event.bestFitness?] using hbests
  · intro x hx
    replace hx : x ∈ events.filterMap Event.evaluated? := by
      simpa [hevents, List.filterMap_cons, Event.evaluated?] using hx
    cases hrepair : result.isRepair with
    | false => exact (hfirst hrepair).value_le x (List.mem_cons_of_mem _ hx)
    | true =>
      obtain ⟨hscore, hrepairs⟩ := hchronicle.repairs hrepair
      exact (hchronicle.scored_of_mem x hx).value_le_of_repairs hs hexact hscore hrepairs
  · simpa [hevents, List.filterMap_cons, Event.evaluated?] using hfirst

theorem result_of_twoFaults :
    (∃ result s' r,
      Returns (search (TwoFaults.settings 3) TwoFaults.seed) (.new TwoFaults.lab) result s' ∧
      (r :: s'.events.filterMap Event.bestFitness?).Pairwise
        (fun r s => Quantity.intValue r ≤ Quantity.intValue s) ∧
      ∀ x ∈ s'.events.filterMap Event.evaluated?,
        Quantity.intValue x.2 ≤ Quantity.intValue result.fitness) ∧
    ∃ result s' r lab',
      Returns (search (TwoFaults.settings 1) TwoFaults.seed) (.new TwoFaults.lab) result s' ∧
      Returns TwoFaults.seed.fitness TwoFaults.lab r lab' ∧
      FirstBest Quantity.intValue ((TwoFaults.seed, r) :: s'.events.filterMap Event.evaluated?)
        (result.candidate, result.fitness) ∧ result.fitness.int? = some 10 := by
  have hexact : TwoFaults.seed.strategies.weights.Exact TwoFaults.seed.suite.names.length
      Quantity.intValue :=
    Weights.exact_ofInt Int.one_nonneg (Int.natCast_nonneg 10)
  constructor
  · obtain ⟨result, s', h, -⟩ := TwoFaults.exists_repaired
    obtain ⟨r, -, -, hbests, hgreatest, -⟩ :=
      result_firstBest TwoFaults.coherence TwoFaults.ready hexact h
    exact ⟨result, s', r, h, hbests, hgreatest⟩
  · obtain ⟨result, s', h, hno, -, hfitness⟩ := TwoFaults.exists_limited
    obtain ⟨r, lab', hseed, -, -, hfirst⟩ :=
      result_firstBest TwoFaults.coherence TwoFaults.ready hexact h
    exact ⟨result, s', r, lab', h, hseed, hfirst hno, hfitness⟩

end Search

end GeneticRepair
