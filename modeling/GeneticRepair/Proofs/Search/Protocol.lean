import GeneticRepair.Proofs.Search.Chronicle
import GeneticRepair.Proofs.Toolchain.Simulation

/-!
# The protocol of a search

The events of a search come in blocks, one for each generation that it evaluates. A block tells the
size of the population, the candidates in their order, and the best so far; a repair ends it early,
and with it the search. With a coherent toolchain a search is successful just if its result is a
repair, and it finds one as soon as there is one in a population that it evaluates.
-/

namespace GeneticRepair

/-! ## Blocks of events -/

namespace Search

section Blocks

variable {R T G : Type}

/-- The events of successive generations, each of the given size, with the number of the first and
of the last one, and the populations that they tell of. The last block may end with a repair. -/
inductive Blocks (size : Nat) :
    Bool → Int → Int → List (List (Candidate R)) → List (Event R) → Prop
  | solved {generation : Int} (scored : List (Candidate R × R)) (c : Candidate R) (fitness : R)
      (rest : List (Candidate R)) (full : (scored.map Prod.fst ++ c :: rest).length = size) :
      Blocks size true generation generation [scored.map Prod.fst ++ c :: rest]
        (.generationStarted generation size :: rejections generation scored ++
          [.candidateEvaluated c generation fitness true, .repairFound c generation])
  | finished {generation : Int} (scored : List (Candidate R × R)) (best : Candidate R) (fitness : R)
      (full : scored.length = size) :
      Blocks size false generation generation [scored.map Prod.fst]
        (.generationStarted generation size :: rejections generation scored ++
          [.generationFinished generation best fitness])
  | next {repaired : Bool} {generation last : Int} {populations : List (List (Candidate R))}
      {events : List (Event R)} (scored : List (Candidate R × R)) (best : Candidate R) (fitness : R)
      (full : scored.length = size)
      (rest : Blocks size repaired (generation + 1) last populations events) :
      Blocks size repaired generation last (scored.map Prod.fst :: populations)
        (.generationStarted generation size :: rejections generation scored ++
          .generationFinished generation best fitness :: events)

variable [Toolchain T] [Scalar R] {seed : Candidate R} {settings : SearchSettings R}
  {k : Coherence T seed.suite} {w : Ledger} {left : Nat} {generation : Int}
  {best : Candidate R × R} {population : List (Candidate R)}
  {populations : List (List (Candidate R))} {events : List (Event R)} {result : SearchResult R}
  {state : SearchState}

private theorem Chronicle.blocks
    (h : Chronicle settings k w left generation best population populations events result state)
    {size limit : Int} (hsize : settings.populationSize.int? = some size)
    (hlimit : settings.numGenerations.int? = some limit) (hleft : limit = generation + left)
    (hfull : population.length = size.toNat) :
    ∃ last, Blocks size.toNat result.isRepair generation last populations
        (.generationStarted generation population.length :: events) ∧
      result.generations.int? = some last ∧ last ≤ limit ∧
      (state = .terminatedMaxGenerations → last = limit) := by
  induction h with
  | @solved left generation best scored c r rest =>
    refine ⟨generation, ?_, rfl, by omega, (nomatch ·)⟩
    rw [hfull]
    exact .solved scored c r rest hfull
  | @limited generation best best' scored =>
    refine ⟨limit, ?_, hlimit, Int.le_refl limit, fun _ => rfl⟩
    obtain rfl : limit = generation := by omega
    rw [hfull]
    exact .finished scored best'.1 best'.2 (by simpa using hfull)
  | @exhausted left generation best best' scored =>
    refine ⟨generation, ?_, rfl, by omega, (nomatch ·)⟩
    rw [hfull]
    exact .finished scored best'.1 best'.2 (by simpa using hfull)
  | continued scored _ _ hnext _ _ ih =>
    obtain ⟨n, hn, hlen⟩ := hnext
    obtain rfl := Option.some.inj (hsize.symm.trans hn)
    obtain ⟨last, hblocks, hlast, hle, hmax⟩ := ih (by omega) hlen
    refine ⟨last, ?_, hlast, hle, hmax⟩
    rw [hfull]
    exact .next scored _ _ (by simpa using hfull) hblocks

/-- The events of a search are a word of the protocol, and its result tells the number of the last
block. -/
theorem events_follow_protocol [RandomSource G] {lab : Lab T G} {s' : Search R T G}
    (k : Coherence T seed.suite) (hready : k.Ready lab)
    (h : Returns (search settings seed) (.new lab) result s') {size limit : Int}
    (hsize : settings.populationSize.int? = some size) (hpos : 1 ≤ size)
    (hlimit : settings.numGenerations.int? = some limit) (hnonneg : 0 ≤ limit) :
    ∃ populations last body, Evaluates settings seed lab populations result s' ∧
      Blocks size.toNat result.isRepair 0 last populations body ∧
      s'.events = .searchStarted seed :: body ++ [.searchFinished result] ∧
      result.generations.int? = some last ∧ last ≤ limit ∧
      (s'.state = .terminatedMaxGenerations → last = limit) := by
  obtain ⟨populations, hevaluates⟩ := exists_evaluates h
  obtain ⟨w, r, lab', left, population, mutants, events, -, -, -, rfl, hlen, hleft, hchronicle,
    hevents⟩ := hevaluates.chronicle hready
  rw [Quantity.ceiling_eq hsize] at hlen
  have hfull : (seed :: mutants).length = size.toNat := by
    rw [List.length_cons, hlen]
    omega
  have hlast : limit = 0 + (left : Int) := by
    rw [hleft limit hlimit]
    omega
  obtain ⟨last, hblocks, hlast, hle, hmax⟩ := hchronicle.blocks hsize hlimit hlast hfull
  exact ⟨populations, last, _, hevaluates, hblocks, hevents, hlast, hle, hmax⟩

theorem events_of_twoFaults :
    ∃ result s' populations body,
      Returns (search (TwoFaults.settings 3) TwoFaults.seed) (.new TwoFaults.lab) result s' ∧
      Evaluates (TwoFaults.settings 3) TwoFaults.seed TwoFaults.lab populations result s' ∧
      Blocks 3 true 0 2 populations body ∧ body.length = 14 ∧
      s'.events = .searchStarted TwoFaults.seed :: body ++ [.searchFinished result] := by
  obtain ⟨result, s', h, hyes, hgenerations, hlength⟩ := TwoFaults.exists_repaired
  obtain ⟨populations, last, body, hevaluates, hblocks, hevents, hlast, -⟩ :=
    events_follow_protocol TwoFaults.coherence TwoFaults.ready h rfl (by decide : (1 : Int) ≤ 3)
      rfl (by decide : (0 : Int) ≤ 3)
  obtain rfl := Option.some.inj (hgenerations.symm.trans hlast)
  rw [hyes] at hblocks
  have hbody : body.length = 14 := by
    rw [hevents] at hlength
    simpa using hlength
  exact ⟨result, s', populations, body, h, hevaluates, hblocks, hbody, hevents⟩

end Blocks

end Search

/-! ## The verdict -/

def Event.isRepairFound {R : Type} : Event R → Bool
  | repairFound .. => true
  | _ => false

namespace Search

variable {R T G : Type} [Toolchain T] [Scalar R] {seed : Candidate R}
  {settings : SearchSettings R} {k : Coherence T seed.suite} {w : Ledger} {left : Nat}
  {generation : Int} {best : Candidate R × R} {population : List (Candidate R)}
  {populations : List (List (Candidate R))} {events : List (Event R)} {result : SearchResult R}
  {state : SearchState}

omit [Scalar R] in
private theorem countP_rejections (scored : List (Candidate R × R)) :
    (rejections generation scored).countP Event.isRepairFound = 0 := by
  rw [rejections, List.countP_map, List.countP_eq_zero]
  simp [Event.isRepairFound]

private theorem Chronicle.countP_isRepairFound
    (h : Chronicle settings k w left generation best population populations events result state) :
    events.countP Event.isRepairFound = if result.isRepair then 1 else 0 := by
  induction h with
  | solved => simp [countP_rejections, Event.isRepairFound]
  | limited => simp [countP_rejections, Event.isRepairFound]
  | exhausted => simp [countP_rejections, Event.isRepairFound]
  | continued scored _ _ _ _ _ ih => simpa [countP_rejections, Event.isRepairFound] using ih

private theorem Chronicle.isRepair_iff
    (h : Chronicle settings k w left generation best population populations events result state) :
    result.isRepair = true ↔ state = .terminatedSuccess := by
  induction h with
  | solved => simp
  | limited => simp
  | exhausted => simp
  | continued _ _ _ _ _ _ ih => exact ih

private theorem Chronicle.not_repairs
    (h : Chronicle settings k w left generation best population populations events result state)
    (hrepair : result.isRepair = false) :
    ∀ population ∈ populations, ∀ c ∈ population, ¬ k.Repairs c.program := by
  induction h with
  | solved => exact nomatch hrepair
  | limited scored rejects =>
    intro population hpopulation
    rw [List.mem_singleton.mp hpopulation]
    exact fun c hc => rejects.not_repairs hc
  | exhausted scored rejects =>
    intro population hpopulation
    rw [List.mem_singleton.mp hpopulation]
    exact fun c hc => rejects.not_repairs hc
  | continued scored rejects _ _ _ _ ih =>
    intro population hpopulation
    rcases List.mem_cons.mp hpopulation with rfl | hpopulation
    · exact fun c hc => rejects.not_repairs hc
    · exact ih hrepair population hpopulation

/-- The verdict of a search is right in both directions. -/
theorem verdict_correct [RandomSource G] {lab : Lab T G} {s' : Search R T G}
    (k : Coherence T seed.suite) (hready : k.Ready lab)
    (h : Returns (search settings seed) (.new lab) result s') :
    (result.isRepair = true ↔ s'.state = .terminatedSuccess) ∧
    (result.isRepair = true ↔ s'.events.countP Event.isRepairFound = 1) ∧
    (result.isRepair = true → k.Repairs result.candidate.program) ∧
    (∃ populations, Evaluates settings seed lab populations result s') ∧
    (result.isRepair = false → ∀ populations, Evaluates settings seed lab populations result s' →
      ∀ population ∈ populations, ∀ c ∈ population, ¬ k.Repairs c.program) := by
  obtain ⟨populations, hevaluates⟩ := exists_evaluates h
  obtain ⟨w, r, lab', left, population, mutants, events, -, -, -, -, -, -, hchronicle, hevents⟩ :=
    hevaluates.chronicle hready
  refine ⟨hchronicle.isRepair_iff, ?_, fun hyes => (hchronicle.repairs hyes).2,
    ⟨populations, hevaluates⟩, ?_⟩
  · rw [hevents]
    simp [Event.isRepairFound, hchronicle.countP_isRepairFound]
  · intro hno populations' hevaluates'
    obtain ⟨_, _, _, _, _, _, _, -, -, -, -, -, -, hchronicle', -⟩ := hevaluates'.chronicle hready
    exact hchronicle'.not_repairs hno

theorem verdict_of_twoFaults :
    (∃ result s',
      Returns (search (TwoFaults.settings 3) TwoFaults.seed) (.new TwoFaults.lab) result s' ∧
      s'.state = .terminatedSuccess ∧ s'.events.countP Event.isRepairFound = 1 ∧
      TwoFaults.coherence.Repairs result.candidate.program) ∧
    ∃ result s' populations,
      Returns (search (TwoFaults.settings 1) TwoFaults.seed) (.new TwoFaults.lab) result s' ∧
      s'.state ≠ .terminatedSuccess ∧ s'.events.countP Event.isRepairFound ≠ 1 ∧
      Evaluates (TwoFaults.settings 1) TwoFaults.seed TwoFaults.lab populations result s' ∧
      ∀ population ∈ populations, ∀ c ∈ population, ¬ TwoFaults.coherence.Repairs c.program := by
  constructor
  · obtain ⟨result, s', h, hyes, -⟩ := TwoFaults.exists_repaired
    obtain ⟨hstate, hfound, hrepairs, -⟩ :=
      verdict_correct TwoFaults.coherence TwoFaults.ready h
    exact ⟨result, s', h, hstate.mp hyes, hfound.mp hyes, hrepairs hyes⟩
  · obtain ⟨result, s', h, hno, -⟩ := TwoFaults.exists_limited
    obtain ⟨hstate, hfound, -, ⟨populations, hevaluates⟩, hrejects⟩ :=
      verdict_correct TwoFaults.coherence TwoFaults.ready h
    have hnot : ¬ result.isRepair = true := by simp [hno]
    exact ⟨result, s', populations, h, fun hs => hnot (hstate.mpr hs),
      fun hone => hnot (hfound.mpr hone), hevaluates, hrejects hno populations hevaluates⟩

end Search

end GeneticRepair
