import GeneticRepair.Proofs.Candidate.Decision
import GeneticRepair.Proofs.Search.Evaluator
import GeneticRepair.Proofs.Search.Stalled
import GeneticRepair.Proofs.Toolchain.Simulation
import GeneticRepair.Random.MersenneTwister

/-!
# Full populations and exhausted searches

With a toolchain that decides what compiles, every population that a search evaluates is full, and
all its members compile if the seed does. A search comes to an end for want of candidates just if
the seed does not compile and there may be a second generation.
-/

namespace GeneticRepair

variable {R T G α : Type} [Toolchain T] {seed c : Candidate R} {k : Decision T seed.suite}
  {w : Ledger} {population : List (Candidate R)}

namespace Decision

private theorem stalls (hseed : seed.Enrolled w seed) (hno : k.compiles seed.program = false) :
    Stalls seed (k.Sound (G := G) w) where
  isCompilable := by
    apply (ends_isCompilable hseed).mono _ fun _ _ => trivial
    intro b hb
    exact hb.trans hno
  evaluate? :=
    (questionsKeep_sound hseed).toTurnsKeep.ends_evaluate?.mono (fun _ _ => trivial)
      fun _ _ => trivial

private theorem interchangeable_evaluateAll (k : Decision T seed.suite) :
    Interchangeable seed (Diagonal (k.Sound (G := G))) Search.evaluateAll Search.evaluateAll := by
  intro w population hpop
  have hends : Ends (k.Sound (G := G) w) (Search.evaluateAll population) (fun _ => True)
      fun _ => True := by
    apply Search.ends_evaluateAll
    intro c hc
    have hkeep := questionsKeep_sound (k := k) (G := G) (hpop c hc)
    exact hkeep.toTurnsKeep.ends_evaluate?.mono (fun _ _ => trivial) fun _ _ => trivial
  exact Mirrors.mono (repeats_diagonal_iff.mpr hends.keeps) fun _ _ _ _ _ => trivial

end Decision

namespace Search

variable {s s' : Search R T G} {settings : SearchSettings R}

/-- The laboratory is sound, and the best candidate is a variant of the seed. -/
def Tracked (k : Decision T seed.suite) (w : Ledger) (s : Search R T G) : Prop :=
  k.Sound w s.lab ∧ ∀ x, s.best = some x → seed.Enrolled w x.1

private theorem keeps_tracked {x : Searching R T G α} {P : Ledger → α → Prop}
    (h : Repeats (Related seed (Diagonal k.Sound)) w x P) : Keeps (Tracked k) w x P := by
  intro s a t hs hx
  obtain ⟨b, t', -, w', hw, hrelated, -, hP⟩ := h s s a t (.mk ⟨rfl, hs.1⟩ hs.2) hx
  obtain ⟨⟨-, hlab⟩, hbest⟩ := hrelated
  exact ⟨w', hw, ⟨hlab, hbest⟩, hP⟩

/-! ## Last states -/

variable [Scalar R] {state : SearchState} {q : Quantity} {result : SearchResult R}

private theorem state_of_finish (h : Returns (finish state c q) s result s') :
    s'.state = state := by
  obtain ⟨_, _, hfitness, h⟩ := returns_bind.mp (returns_enter_bind.mp h)
  obtain ⟨_, -, rfl⟩ := returns_inLab.mp hfitness
  obtain ⟨_, _, hverdict, h⟩ := returns_bind.mp h
  obtain ⟨_, -, rfl⟩ := returns_inLab.mp hverdict
  obtain ⟨-, rfl⟩ := returns_pure.mp h
  rfl

private theorem state_of_giveUp (h : Returns (giveUp state q) s result s') : s'.state = state := by
  replace h := returns_get_bind.mp h
  cases hbest : s.best with
  | none =>
    rw [hbest] at h
    exact (not_returns_throw h).elim
  | some best =>
    rw [hbest] at h
    exact state_of_finish h

variable [RandomSource G] {left : Nat} {generation : Int} {populations : List (List (Candidate R))}

private theorem Course.exists_cons
    (h : Course settings left generation population s populations result s') :
    ∃ rest, populations = population :: rest := by
  cases h with
  | solved => exact ⟨[], rfl⟩
  | limited => exact ⟨[], rfl⟩
  | exhausted => exact ⟨[], rfl⟩
  | continued => exact ⟨_, rfl⟩

/-! ## Seeds that compile -/

/-- The population is full of compiling variants of the seed. -/
structure Thrives (k : Decision T seed.suite) (w : Ledger) (size : Nat)
    (population : List (Candidate R)) : Prop where
  length : population.length = size
  enrolled : ∀ c ∈ population, seed.Enrolled w c
  compiles : ∀ c ∈ population, k.compiles c.program = true

variable {size limit : Nat}

omit [Scalar R] in
private theorem Thrives.mono {w' : Ledger} (hw : w ≤ w') (h : Thrives k w size population) :
    Thrives k w' size population :=
  { h with enrolled := fun c hc => (h.enrolled c hc).mono hw }

omit [RandomSource G] in
private theorem Thrives.evaluated {repair : Option (Candidate R)}
    (hpop : Thrives k w size population)
    (hs : Tracked k w s) (h : Returns (evaluateGeneration population generation) s repair s') :
    ∃ w', w ≤ w' ∧ Tracked k w' s' := by
  have hgeneration := k.agreement.evaluateGenerationBy (G := G) k.interchangeable_evaluateAll
    hpop.enrolled generation
  obtain ⟨w', hw, hs', -⟩ := keeps_tracked hgeneration _ _ _ hs h
  exact ⟨w', hw, hs'⟩

private theorem Thrives.advanced {next : Option (List (Candidate R))}
    (hsize : settings.populationSize.int? = some (size : Int)) (hpos : 1 ≤ size)
    (hpop : Thrives k w size population) (hs : Tracked k w s)
    (h : Returns (advance settings population generation) s next s') :
    ∃ members w', next = some members ∧ Tracked k w' s' ∧ Thrives k w' size members := by
  obtain ⟨w', _, hs', hnone, hsome⟩ :=
    keeps_tracked (k.agreement.advance (G := G) hpop.enrolled generation) _ _ _ hs h
  cases next with
  | none =>
    have hfirst : 0 < population.length := by
      rw [hpop.length]
      exact hpos
    have hmem := List.getElem_mem hfirst
    have hno := hnone rfl _ hmem
    rw [hpop.compiles _ hmem] at hno
    cases hno
  | some members =>
    obtain ⟨⟨n, hn, hlength⟩, hmembers⟩ := hsome members rfl
    have hn' : n = (size : Int) := Option.some.inj (hn.symm.trans hsize)
    refine ⟨members, w', rfl, hs', ?_, fun c hc => (hmembers c hc).1, ?_⟩
    · rw [hlength, hn', Int.toNat_natCast]
    · intro c hc
      exact (hmembers c hc).2.symm

/-- As long as populations thrive, the search does not end for want of candidates. -/
theorem Course.thrives (hsize : settings.populationSize.int? = some (size : Int)) (hpos : 1 ≤ size)
    (h : Course settings left generation population s populations result s')
    (hs : Tracked k w s) (hpop : Thrives k w size population) :
    (∀ members ∈ populations, ∃ w', Thrives k w' size members) ∧
      s'.state ≠ .terminatedExhausted := by
  have hone : ∀ {w : Ledger} {members : List (Candidate R)}, Thrives k w size members →
      ∀ members' ∈ [members], ∃ w', Thrives k w' size members' := by
    intro w members hmembers members' hmem
    rw [List.mem_singleton.mp hmem]
    exact ⟨w, hmembers⟩
  induction h generalizing w with
  | solved _ finished =>
    refine ⟨hone hpop, ?_⟩
    rw [state_of_finish finished]
    decide
  | limited _ finished =>
    refine ⟨hone hpop, ?_⟩
    rw [state_of_giveUp finished]
    decide
  | exhausted evaluated advanced _ =>
    obtain ⟨w₁, hw₁, hs₁⟩ := hpop.evaluated hs evaluated
    obtain ⟨_, _, hsome, -⟩ := (hpop.mono hw₁).advanced hsize hpos hs₁ advanced
    cases hsome
  | continued evaluated advanced _ ih =>
    obtain ⟨w₁, hw₁, hs₁⟩ := hpop.evaluated hs evaluated
    obtain ⟨_, w₂, hsome, hs₂, hnext⟩ := (hpop.mono hw₁).advanced hsize hpos hs₁ advanced
    obtain rfl := Option.some.inj hsome
    obtain ⟨hrest, hstate⟩ := ih hs₂ hnext
    refine ⟨?_, hstate⟩
    intro members hmembers
    rcases List.mem_cons.mp hmembers with rfl | hmembers
    · exact ⟨w, hpop⟩
    · exact hrest members hmembers

/-! ## Seeds that do not compile -/

private theorem Course.stalled {inv : Lab T G → Prop} (hstalls : Stalls seed inv)
    (h : Course settings left generation population s populations result s')
    (hs : Stays seed inv s) (hpop : ∀ c ∈ population, c = seed) :
    populations = [population] ∧ (s'.state = .terminatedExhausted ↔ 0 < left) ∧
      (0 < left → result.generations = .ofInt generation ∧ result.candidate = seed) := by
  have hevaluated := hstalls.evaluateGenerationBy hpop generation (hstalls.evaluateAll hpop)
  cases h with
  | solved evaluated _ => cases (hevaluated.of_returns hs evaluated).1
  | limited _ finished =>
    refine ⟨rfl, ?_, fun hleft => absurd hleft (Nat.lt_irrefl 0)⟩
    rw [state_of_giveUp finished]
    decide
  | exhausted evaluated advanced finished =>
    obtain ⟨-, hs₁⟩ := hevaluated.of_returns hs evaluated
    obtain ⟨-, hs₂⟩ := (hstalls.advance settings hpop _).of_returns hs₁ advanced
    obtain ⟨⟨hcandidate, hgenerations⟩, -⟩ := (hstalls.giveUp _ _).of_returns hs₂ finished
    refine ⟨rfl, ?_, fun _ => ⟨hgenerations, hcandidate⟩⟩
    rw [state_of_giveUp finished]
    simp
  | continued evaluated advanced _ =>
    obtain ⟨-, hs₁⟩ := hevaluated.of_returns hs evaluated
    cases ((hstalls.advance settings hpop _).of_returns hs₁ advanced).1

/-! ## Whole searches -/

/-- All populations are full, the first begins with the seed, and if the seed compiles then so does
everything in them. -/
structure Filled (k : Decision T seed.suite) (size : Nat) (populations : List (List (Candidate R))) :
    Prop where
  length : ∀ population ∈ populations, population.length = size
  first : ∃ mutants rest, populations = (seed :: mutants) :: rest
  compiles : k.compiles seed.program = true →
    ∀ population ∈ populations, ∀ c ∈ population, k.compiles c.program = true

private theorem Evaluates.filled {lab : Lab T G} (hready : k.Ready seed lab)
    (hsize : settings.populationSize.int? = some (size : Int)) (hpos : 1 ≤ size)
    (hlimit : settings.numGenerations.int? = some (limit : Int))
    (h : Evaluates settings seed lab populations result s') :
    Filled k size populations ∧
    (s'.state = .terminatedExhausted ↔ k.compiles seed.program = false ∧ 1 ≤ limit) ∧
    (s'.state = .terminatedExhausted → result.generations = .ofInt 0 ∧ result.candidate = seed) := by
  obtain ⟨w, hsound, hseed⟩ := hready.exists_ledger
  obtain ⟨launched, course, hleft, rfl⟩ := h
  obtain rfl := hleft limit hlimit
  have hstart : Tracked k w ⟨lab, true, .initializing, none, [.searchStarted seed]⟩ :=
    ⟨hsound, nofun⟩
  obtain ⟨w₁, -, hs₁, mutants, hpopulation, hlength, hmembers⟩ :=
    keeps_tracked (k.agreement.launch (G := G) k.interchangeable_evaluateAll hseed) _ _ _ hstart
      launched
  rw [Quantity.ceiling_eq hsize, Int.toNat_natCast] at hlength
  obtain ⟨rest, hfirst⟩ := course.exists_cons
  have hfull : (seed :: mutants).length = size := by
    rw [List.length_cons, hlength]
    omega
  subst hpopulation
  cases hcompiles : k.compiles seed.program with
  | true =>
    have hthrives : Thrives k w₁ size (seed :: mutants) := by
      refine ⟨hfull, fun c hc => (hmembers c hc).1, ?_⟩
      intro c hc
      rcases (hmembers c hc).2 with rfl | ⟨-, htold⟩
      · exact hcompiles
      · exact htold.symm
    obtain ⟨hall, hstate⟩ := course.thrives hsize hpos hs₁ hthrives
    refine ⟨⟨?_, ⟨mutants, rest, hfirst⟩, ?_⟩, by simp [hstate],
      fun hexhausted => absurd hexhausted hstate⟩
    · intro p hp
      obtain ⟨_, hthrives⟩ := hall p hp
      exact hthrives.length
    · intro _ p hp
      obtain ⟨_, hthrives⟩ := hall p hp
      exact hthrives.compiles
  | false =>
    have hpop : ∀ c ∈ seed :: mutants, c = seed := by
      intro c hc
      rcases (hmembers c hc).2 with rfl | ⟨hno, -⟩
      · rfl
      · cases hno.trans hcompiles
    have hstalls := Decision.stalls (G := G) hseed hcompiles
    have hstartStays : Stays seed (k.Sound w)
        ⟨lab, true, .initializing, none, [.searchStarted seed]⟩ := ⟨hsound, nofun⟩
    obtain ⟨-, hstays⟩ := (hstalls.launch settings).of_returns hstartStays launched
    obtain ⟨rfl, hstate, hresult⟩ := course.stalled hstalls hstays hpop
    refine ⟨⟨?_, ⟨mutants, rest, hfirst⟩, ?_⟩, ?_, ?_⟩
    · intro p hp
      rw [List.mem_singleton.mp hp]
      exact hfull
    · intro hyes
      cases hyes.symm.trans hcompiles
    · simp only [true_and]
      exact hstate
    · intro hexhausted
      exact hresult (hstate.mp hexhausted)

/-- The populations of a search are full of candidates that compile if the seed does, and for want of
such only a search from a seed that does not compile comes to an end, at once. -/
theorem filled_and_exhausted_iff {lab : Lab T G} (k : Decision T seed.suite)
    (hready : k.Ready seed lab) (hsize : settings.populationSize.int? = some (size : Int))
    (hpos : 1 ≤ size) (hlimit : settings.numGenerations.int? = some (limit : Int))
    (h : Returns (search settings seed) (.new lab) result s') :
    (∃ populations, Evaluates settings seed lab populations result s') ∧
    (∀ populations, Evaluates settings seed lab populations result s' →
      Filled k size populations) ∧
    (s'.state = .terminatedExhausted ↔ k.compiles seed.program = false ∧ 1 ≤ limit) ∧
    (s'.state = .terminatedExhausted → result.generations = .ofInt 0 ∧ result.candidate = seed) := by
  obtain ⟨populations, hevaluates⟩ := exists_evaluates h
  obtain ⟨-, hstate, hresult⟩ := hevaluates.filled hready hsize hpos hlimit
  refine ⟨⟨populations, hevaluates⟩, ?_, hstate, hresult⟩
  intro populations' hevaluates'
  exact (hevaluates'.filled hready hsize hpos hlimit).1

end Search

/-! ## A broken seed -/

namespace BrokenSum

def rules : SimulationRules :=
  ⟨⟨[], ["-"]⟩, ⟨[], ["-"]⟩, [], [("test_sum.py::test_add", ⟨["a + b"], [], [], []⟩)]⟩

private theorem calm : rules.Calm :=
  ⟨rfl, rfl, rfl, rfl⟩

def settings : SearchSettings Quantity :=
  ⟨.ofInt 3, .ofInt 2, .ofInt 1, .ofInt 1, .ofInt 1⟩

def lab : Lab Simulation MersenneTwister :=
  ⟨.new rules, #[.empty], none, .ofSeed 0⟩

def decision : Decision Simulation WrongSum.seed.suite :=
  (Simulation.coherence calm WrongSum.seed.suite).decision

private theorem ready : decision.Ready WrongSum.seed lab :=
  ⟨rfl, .empty, rfl, Memo.tells_empty _⟩

end BrokenSum

namespace Search

theorem filled_and_exhausted_of_brokenSum : ∃ result s' populations,
    Returns (search BrokenSum.settings WrongSum.seed) (.new BrokenSum.lab) result s' ∧
    Evaluates BrokenSum.settings WrongSum.seed BrokenSum.lab populations result s' ∧
    Filled BrokenSum.decision 3 populations ∧ s'.state = .terminatedExhausted ∧
    result.generations = .ofInt 0 ∧ result.candidate = WrongSum.seed := by
  obtain ⟨result, s', h⟩ : ∃ result s',
      Returns (search BrokenSum.settings WrongSum.seed) (.new BrokenSum.lab) result s' :=
    exists_returns (by decide +kernel)
  have hsize : BrokenSum.settings.populationSize.int? = some ((3 : Nat) : Int) := rfl
  have hlimit : BrokenSum.settings.numGenerations.int? = some ((2 : Nat) : Int) := rfl
  obtain ⟨⟨populations, hevaluates⟩, hfilled, hstate, hresult⟩ :=
    filled_and_exhausted_iff BrokenSum.decision BrokenSum.ready hsize (by decide) hlimit h
  have hexhausted : s'.state = .terminatedExhausted := by
    apply hstate.mpr
    decide
  refine ⟨result, s', populations, h, hevaluates, hfilled populations hevaluates, hexhausted, ?_⟩
  exact hresult hexhausted

end Search

end GeneticRepair
