import GeneticRepair.Proofs.Candidate.Alike
import GeneticRepair.Proofs.Search.Evaluator
import GeneticRepair.Proofs.Search.Pooling

/-!
# Searches with several threads

With a steady toolchain, cached or not, a search comes to the same with any number of threads and
whatever the schedules: it has the same result, reports the same events, and leaves the source of
randomness in the same state. Caches and memos may be in different states; no later question can
tell.
-/

namespace GeneticRepair

namespace Search

variable {R T G : Type} [Toolchain T] [Stepwise T] {seed : Candidate R}

/-! ## Populations -/

private theorem separate_of_enrolled {w : Ledger} {cs : List (Candidate R)}
    (h : ∀ c ∈ cs, seed.Enrolled w c) : Separate cs := by
  intro c hc d hd hmemo
  have howner := (h c hc).owner
  rw [hmemo, (h d hd).owner] at howner
  exact (Option.some.inj (Option.some.inj howner)).symm

private theorem interchangeable_evaluateAllWith (k : Steady T seed.suite) (threads : Quantity)
    (schedule : List Nat) :
    Interchangeable seed (Alike (G := G) k) evaluateAll (evaluateAllWith threads schedule) := by
  intro w population hpop
  have hpending : Repeats (Alike (G := G) k) w (unevaluated population) fun _ cs =>
      cs.Sublist population :=
    repeats_unevaluated fun _ _ _ _ => Candidate.repeats_isEvaluated.mono fun _ _ _ _ => trivial
  refine hpending.then fun w' cs hw hsub => mirrors_of_returns fun s s' hs => ?_
  have henrolled : ∀ c ∈ distinct cs, seed.Enrolled w' c := fun c hc =>
    (hpop c (hsub.subset (distinct_subset cs hc))).mono hw
  have hseparate := separate_of_enrolled henrolled
  have hsuite : ∀ c ∈ distinct cs, c.suite = seed.suite := fun c hc => (henrolled c hc).suite
  have hmemo : ∀ c ∈ distinct cs, ∃ g, s.gist? c.memo = some g ∧ s'.gist? c.memo = some g :=
    fun c hc => hs.exists_gist (henrolled c hc)
  obtain ⟨t, ht, hsettled⟩ := returns_evaluateEach hs.valid hsuite hseparate fun c hc =>
    (hmemo c hc).imp fun _ h => h.1
  have hmemo' : ∀ c ∈ distinct cs, ∃ g, s'.gist? c.memo = some g := fun c hc =>
    (hmemo c hc).imp fun _ h => h.2
  have hpool : ∃ t', Returns (if (Scalar.less (.ofInt 1) threads && (distinct cs).length > 1) = true
      then evaluateInPool schedule (distinct cs)
      else do for c in distinct cs do let _ ← c.evaluate?) s' () t' ∧
        AllSettled k (distinct cs) s' t' := by
    split
    · exact returns_evaluateInPool schedule hs.valid' hsuite hseparate hmemo'
    · exact returns_evaluateEach hs.valid' hsuite hseparate hmemo'
  obtain ⟨t', ht', hsettled'⟩ := hpool
  exact ⟨(), t, (), t', ht, ht', w', le_rfl, hsettled.alike hs hsettled', trivial⟩

private theorem evaluateAllWith_one (schedule : List Nat) :
    (evaluateAllWith (.ofInt 1) schedule : List (Candidate R) → Action T G Unit) = evaluateAll :=
  rfl

private theorem interchangeable_evaluateAll (k : Steady T seed.suite) :
    Interchangeable seed (Alike (G := G) k) evaluateAll evaluateAll :=
  evaluateAllWith_one (R := R) (T := T) (G := G) [] ▸
    interchangeable_evaluateAllWith k (.ofInt 1) []

/-! ## Settings -/

section Settings

variable [Scalar R] [RandomSource G] {settings : SearchSettings R} {threads : Quantity}

omit [Stepwise T] in
private theorem fillWith_threads (c : Candidate R) (missing : Nat) :
    (fillWith { settings with threads } c missing : Action T G _) =
      fillWith settings c missing := by
  induction missing with
  | zero => rfl
  | succ missing ih =>
    rw [fillWith, fillWith, ih]
    rfl

omit [Stepwise T] in
private theorem breedUntil_threads (population : List (Candidate R)) (fuel : Nat)
    (offspring : List (Candidate R)) :
    (breedUntil { settings with threads } Candidate.select population fuel offspring :
      Action T G _) = breedUntil settings Candidate.select population fuel offspring := by
  induction fuel generalizing offspring with
  | zero => rfl
  | succ fuel ih => simp only [breedUntil, ih]

omit [Stepwise T] in
private theorem advance_threads (population : List (Candidate R)) (generation : Int) :
    (advance { settings with threads } population generation : Searching R T G _) =
      advance settings population generation := by
  have hbreed : ∀ bred : List (Candidate R),
      (breed { settings with threads } bred : Action T G _) = breed settings bred := by
    intro bred
    rw [breed, breed, breedBy, breedBy, breedUntil_threads]
  simp only [advance, hbreed]
  rfl

omit [Stepwise T] in
private theorem launch_threads (c : Candidate R) :
    (launch { settings with threads } c : Searching R T G _) = launch settings c := by
  have hinitial : (initial { settings with threads } c : Action T G _) = initial settings c := by
    rw [initial, initial, fillWith_threads]
  simp only [launch, hinitial]

omit [Stepwise T] in
private theorem generationsBy_threads (evaluate : Int → List (Candidate R) → Action T G Unit)
    (population : List (Candidate R)) (generation : Int) (left : Nat) :
    generationsBy { settings with threads } evaluate population generation left =
      generationsBy settings evaluate population generation left := by
  induction left generalizing population generation with
  | zero => rfl
  | succ left ih => simp only [generationsBy, advance_threads, ih]

omit [Stepwise T] in
private theorem searchBy_threads (evaluate : Int → List (Candidate R) → Action T G Unit)
    (c : Candidate R) :
    searchBy { settings with threads } evaluate c = searchBy settings evaluate c := by
  simp only [searchBy, runBy, launch_threads, generationsBy_threads]

/-! ## Whole searches -/

/-- If the search with one thread returns, then the search with any number of threads does, whatever
the schedules: it has the same result, the same events, and the same source of randomness in the
end. -/
def ThreadsAgree (settings : SearchSettings R) (seed : Candidate R) (lab : Lab T G) : Prop :=
  ∀ (schedules schedules' : Int → List Nat) (threads : Quantity) (result : SearchResult R)
    (s : Search R T G),
    Returns (searchInPool schedules { settings with threads := .ofInt 1 } seed) (.new lab)
      result s →
    ∃ s', Returns (searchInPool schedules' { settings with threads } seed) (.new lab) result s' ∧
      s'.events = s.events ∧ s'.lab.random = s.lab.random

private theorem threadsAgree_of_steady (k : Steady T seed.suite) {lab : Lab T G}
    (hvalid : k.valid lab.toolchain) (hmemo : seed.memo < lab.memos.size) :
    ThreadsAgree settings seed lab := by
  intro schedules schedules' threads result s h
  have halike : Alike k (seed.soleLedger lab.memos.size) lab lab :=
    ⟨hvalid, hvalid, by simp, by simp, fun _ => rfl, rfl, rfl⟩
  have hseed : seed.Enrolled (seed.soleLedger lab.memos.size) seed :=
    Candidate.enrolled_soleLedger hmemo
  have hmirrors := (k.agreement (G := G)).searchBy settings (interchangeable_evaluateAll k)
    (fun n => interchangeable_evaluateAllWith k threads (schedules' n)) hseed
  have hrelated : Related seed (Alike k) (seed.soleLedger lab.memos.size) (.new lab) (.new lab) :=
    .mk halike fun _ hbest => nomatch hbest
  have hone : Returns (searchBy settings (fun _ => evaluateAll) seed) (.new lab) result s := by
    rw [searchInPool, searchBy_threads] at h
    exact h
  obtain ⟨_, s', h', w', -, hend, rfl, -⟩ := hmirrors _ _ result s hrelated hone
  refine ⟨s', ?_, ?_⟩
  · rw [searchInPool, searchBy_threads]
    exact h'
  · cases hend with
    | mk labs _ => exact ⟨rfl, labs.random_eq⟩

/-- Threads agree with a steady toolchain, and with a cache of it, whatever its capacity. -/
theorem threadsAgree (k : Steady T seed.suite) (settings : SearchSettings R) :
    (∀ lab : Lab T G, k.valid lab.toolchain → seed.memo < lab.memos.size →
      ThreadsAgree settings seed lab) ∧
    ∀ (lab : Lab (Cached T) G) (inner : T) (capacity : Quantity), k.valid inner →
      Cached.new? inner capacity = some lab.toolchain → seed.memo < lab.memos.size →
      ThreadsAgree settings seed lab := by
  refine ⟨fun lab => threadsAgree_of_steady k, fun lab inner capacity hinner hnew => ?_⟩
  exact threadsAgree_of_steady (Cached.steady k) (Cached.reliable_of_new? hinner hnew)

end Settings

end Search

/-! ## A search with several candidates to evaluate at a time -/

namespace Crowd

def rules : SimulationRules :=
  ⟨⟨[], []⟩, ⟨[], []⟩, [], [("test_y.py::test_y", ⟨["y = 9"], [], [], ["="]⟩)]⟩

private theorem calm : rules.Calm :=
  ⟨rfl, rfl, rfl, rfl⟩

def seed : Candidate Quantity :=
  ⟨"xy", ["x = 1", "y = 2"], ⟨"test_y.py", [], [⟨"test_y.py", none, "test_y"⟩]⟩,
    ⟨.classic true, .raw, .jaccard, ⟨.ofInt 1, .ofInt 10⟩⟩, 0⟩

def settings : SearchSettings Quantity :=
  ⟨.ofInt 4, .ofInt 1, .ofInt 1, .ofInt 1, .ofInt 1⟩

def lab {T : Type} (toolchain : T) : Lab T Counter :=
  ⟨toolchain, #[.empty], none, ⟨0⟩⟩

def narrow : Cached Simulation :=
  .ofCapacity (.new rules) (.ofInt 1)

end Crowd

namespace Search

theorem threadsAgree_of_crowd :
    (∃ result s s',
      Returns (searchInPool (fun _ => []) Crowd.settings Crowd.seed)
        (.new (Crowd.lab (Simulation.new Crowd.rules))) result s ∧
      Returns (searchInPool (fun _ => [2, 0, 1]) { Crowd.settings with threads := .ofInt 3 }
        Crowd.seed) (.new (Crowd.lab (Simulation.new Crowd.rules))) result s' ∧
      s'.events = s.events ∧ s'.lab.random = s.lab.random) ∧
    ∃ result s s',
      Returns (searchInPool (fun _ => []) Crowd.settings Crowd.seed)
        (.new (Crowd.lab Crowd.narrow)) result s ∧
      Returns (searchInPool (fun _ => [2, 0, 1, 1, 0, 2, 2]) { Crowd.settings with
        threads := .ofInt 3 } Crowd.seed) (.new (Crowd.lab Crowd.narrow)) result s' ∧
      s'.events = s.events ∧ s'.lab.random = s.lab.random := by
  obtain ⟨k, hk⟩ := Simulation.exists_steady Crowd.calm rfl Crowd.seed.suite
  have hvalid : k.valid (.new Crowd.rules) := hk ▸ rfl
  have hagree := threadsAgree (G := Counter) k Crowd.settings
  constructor
  · obtain ⟨result, s, h⟩ : ∃ result s, Returns
        (searchInPool (fun _ => []) Crowd.settings Crowd.seed)
        (.new (Crowd.lab (Simulation.new Crowd.rules))) result s :=
      exists_returns (by decide +kernel)
    obtain ⟨s', h', hsame⟩ := hagree.1 (Crowd.lab (.new Crowd.rules)) hvalid (by decide)
      (fun _ => []) (fun _ => [2, 0, 1]) (.ofInt 3) result s h
    exact ⟨result, s, s', h, h', hsame⟩
  · obtain ⟨result, s, h⟩ : ∃ result s, Returns
        (searchInPool (fun _ => []) Crowd.settings Crowd.seed)
        (.new (Crowd.lab Crowd.narrow)) result s :=
      exists_returns (by decide +kernel)
    obtain ⟨s', h', hsame⟩ := hagree.2 (Crowd.lab Crowd.narrow) (.new Crowd.rules) (.ofInt 1) hvalid
      rfl (by decide) (fun _ => []) (fun _ => [2, 0, 1, 1, 0, 2, 2]) (.ofInt 3) result s h
    exact ⟨result, s, s', h, h', hsame⟩

end Search

end GeneticRepair
