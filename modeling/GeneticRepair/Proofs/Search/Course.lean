import GeneticRepair.Proofs.Action
import GeneticRepair.Search.Genetic

/-!
# The course of a search

A search evaluates one population after another. `Course` follows it from the evaluation of a
population to the result, and `Evaluates` says which populations a whole search evaluates.
-/

namespace GeneticRepair.Search

variable {R T G α : Type}

@[simp] theorem returns_inLab {act : Action T G α} {s s' : Search R T G} {a : α} :
    Returns (inLab act) s a s' ↔
      ∃ lab, Returns act s.lab a lab ∧ s' = { s with lab } := by
  have hrun : (inLab act : Searching R T G α).run.run s =
      ((act.run.run s.lab).1, { s with lab := (act.run.run s.lab).2 }) := rfl
  unfold Returns
  rw [hrun]
  rcases act.run.run s.lab with ⟨r, lab⟩
  constructor
  · intro h
    cases h
    exact ⟨lab, rfl, rfl⟩
  · rintro ⟨_, h, rfl⟩
    cases h
    rfl

theorem returns_report_bind {e : Event R} {f : Unit → Searching R T G α} {s s' : Search R T G}
    {a : α} :
    Returns (report e >>= f) s a s' ↔
      Returns (f ()) { s with events := s.events ++ [e] } a s' :=
  returns_modify_bind

theorem returns_enter_bind {state : SearchState} {f : Unit → Searching R T G α}
    {s s' : Search R T G} {a : α} :
    Returns (enter state >>= f) s a s' ↔ Returns (f ()) { s with state } a s' :=
  returns_modify_bind

theorem returns_setBest_bind {c : Candidate R} {fitness : R} {f : Unit → Searching R T G α}
    {s s' : Search R T G} {a : α} :
    Returns (setBest c fitness >>= f) s a s' ↔
      Returns (f ()) { s with best := some (c, fitness) } a s' :=
  returns_modify_bind

private theorem returns_count {q : Quantity} {n : Int} {lab lab' : Lab T G} :
    Returns (count q : Action T G Int) lab n lab' ↔ q.int? = some n ∧ lab' = lab := by
  unfold count
  split
  · rename_i m hm
    simp [hm, eq_comm]
  · rename_i hnone
    simp [hnone]

variable [Toolchain T] [Scalar R] [RandomSource G] (settings : SearchSettings R)

/-- From the evaluation of a population to the result of the search, with the number of generations
that may follow, the number of this one, and the populations that are evaluated. -/
inductive Course : Nat → Int → List (Candidate R) → Search R T G → List (List (Candidate R)) →
    SearchResult R → Search R T G → Prop
  | solved {left generation population s s₁ repair result s'}
      (evaluated : Returns (evaluateGeneration population generation) s (some repair) s₁)
      (finished : Returns (finish .terminatedSuccess repair (.ofInt generation)) s₁ result s') :
      Course left generation population s [population] result s'
  | limited {generation population s s₁ result s'}
      (evaluated : Returns (evaluateGeneration population generation) s none s₁)
      (finished : Returns (giveUp .terminatedMaxGenerations settings.numGenerations) s₁ result s') :
      Course 0 generation population s [population] result s'
  | exhausted {left generation population s s₁ s₂ result s'}
      (evaluated : Returns (evaluateGeneration population generation) s none s₁)
      (advanced : Returns (advance settings population (generation + 1)) s₁ none s₂)
      (finished : Returns (giveUp .terminatedExhausted (.ofInt generation)) s₂ result s') :
      Course (left + 1) generation population s [population] result s'
  | continued {left generation population next s s₁ s₂ populations result s'}
      (evaluated : Returns (evaluateGeneration population generation) s none s₁)
      (advanced : Returns (advance settings population (generation + 1)) s₁ (some next) s₂)
      (rest : Course left (generation + 1) next s₂ populations result s') :
      Course (left + 1) generation population s (population :: populations) result s'

/-- A search that returns evaluates these populations. -/
inductive Evaluates (seed : Candidate R) (lab : Lab T G) (populations : List (List (Candidate R)))
    (result : SearchResult R) (s' : Search R T G) : Prop
  | mk {left population s₁ s₂}
      (launched : Returns (launch settings seed)
        ⟨lab, true, .initializing, none, [.searchStarted seed]⟩ population s₁)
      (course : Course settings left 0 population s₁ populations result s₂)
      (limit : ∀ n, settings.numGenerations.int? = some n → left = n.toNat)
      (reported : s' = { s₂ with events := s₂.events ++ [.searchFinished result] })

variable {settings}

private theorem course_of_generations {left : Nat} {generation : Int}
    {population : List (Candidate R)}
    {s s₁ s' : Search R T G} {result : SearchResult R}
    (evaluated : Returns (evaluateGeneration population generation) s none s₁)
    (h : Returns (generations settings population (generation + 1) left) s₁ result s') :
    ∃ populations, Course settings left generation population s populations result s' := by
  induction left generalizing generation population s s₁ with
  | zero => exact ⟨[population], .limited evaluated h⟩
  | succ left ih =>
    obtain ⟨o, s₂, hadvance, hrest⟩ := returns_bind.mp h
    cases o with
    | none =>
      rw [Int.add_sub_cancel] at hrest
      exact ⟨[population], .exhausted evaluated hadvance hrest⟩
    | some next =>
      obtain ⟨repair?, s₃, hnext, hrest⟩ := returns_bind.mp hrest
      cases repair? with
      | some repair =>
        exact ⟨[population, next], .continued evaluated hadvance (.solved hnext hrest)⟩
      | none =>
        obtain ⟨populations, hcourse⟩ := ih hnext hrest
        exact ⟨population :: populations, .continued evaluated hadvance hcourse⟩

private theorem course_of_run {seed : Candidate R} {s s' : Search R T G} {result : SearchResult R}
    (h : Returns (run settings seed) s result s') :
    ∃ left population s₁ populations, Returns (launch settings seed) s population s₁ ∧
      Course settings left 0 population s₁ populations result s' ∧
      ∀ n, settings.numGenerations.int? = some n → left = n.toNat := by
  obtain ⟨population, s₁, hlaunch, hrun⟩ := returns_bind.mp h
  obtain ⟨repair?, s₂, hevaluated, hrest⟩ := returns_bind.mp hrun
  cases repair? with
  | some repair =>
    refine ⟨(settings.numGenerations.int?.getD 0).toNat, population, s₁, [population], hlaunch,
      .solved hevaluated hrest, fun n hn => by simp [hn]⟩
  | none =>
    obtain ⟨limit, s₃, hcount, hrest⟩ := returns_bind.mp hrest
    obtain ⟨lab, hlab, rfl⟩ := returns_inLab.mp hcount
    obtain ⟨hlimit, rfl⟩ := returns_count.mp hlab
    obtain ⟨populations, hcourse⟩ := course_of_generations hevaluated hrest
    refine ⟨limit.toNat, population, s₁, populations, hlaunch, hcourse, fun n hn => ?_⟩
    rw [Option.some.inj (hlimit.symm.trans hn)]

/-- A search that returns evaluates some populations. -/
theorem exists_evaluates {seed : Candidate R} {lab : Lab T G} {s' : Search R T G}
    {result : SearchResult R} (h : Returns (search settings seed) (.new lab) result s') :
    ∃ populations, Evaluates settings seed lab populations result s' := by
  have hstarted := returns_get_bind.mp h
  have hrun := returns_report_bind.mp (returns_modify_bind.mp hstarted)
  obtain ⟨_, s₂, hrun, hfinish⟩ := returns_bind.mp hrun
  replace hfinish := returns_report_bind.mp hfinish
  obtain ⟨rfl, hs'⟩ := returns_pure.mp hfinish
  obtain ⟨left, population, s₁, populations, hlaunch, hcourse, hlimit⟩ := course_of_run hrun
  exact ⟨populations, hlaunch, hcourse, hlimit, hs'⟩

end GeneticRepair.Search
