import GeneticRepair.Proofs.Candidate.Question
import GeneticRepair.Proofs.Search.Course
import GeneticRepair.Proofs.Search.Population

/-!
# Searches that stall

As long as the seed does not compile, it is its own mutant: all members of the first population are
the seed itself, none of them is found to be a repair, and no second population is bred.
-/

namespace GeneticRepair

variable {R T G α : Type} [Toolchain T]

/-- By the invariant the seed does not compile, whenever it is asked. -/
structure Stalls (seed : Candidate R) (inv : Lab T G → Prop) : Prop where
  isCompilable : Ends inv seed.isCompilable (fun compiles => compiles = false) fun _ => True
  evaluate? : Ends inv seed.evaluate? (fun _ => True) fun _ => True

namespace Search

/-- An invariant of the laboratory, while the seed is the best candidate if there is any. -/
def Stays (seed : Candidate R) (inv : Lab T G → Prop) (s : Search R T G) : Prop :=
  inv s.lab ∧ ∀ x, s.best = some x → x.1 = seed

section Rules

variable {T G : Type} {seed : Candidate R} {inv : Lab T G → Prop} {value : α → Prop}
  {failure : Failure → Prop}

private theorem ends_inLab {act : Action T G α} (h : Ends inv act value failure) :
    Ends (Stays seed inv) (inLab act : Searching R T G α) value failure := by
  intro s ⟨hlab, hbest⟩
  obtain ⟨hmeets, hlab'⟩ := h s.lab hlab
  exact ⟨hmeets, hlab', hbest⟩

private theorem ends_report (e : Event R) :
    Ends (Stays seed inv) (report e : Searching R T G Unit) (fun _ => True) failure :=
  ends_modify fun _ hs => hs

private theorem ends_enter (state : SearchState) :
    Ends (Stays seed inv) (enter state : Searching R T G Unit) (fun _ => True) failure :=
  ends_modify fun _ hs => hs

private theorem ends_setBest (r : R) :
    Ends (Stays seed inv) (setBest seed r : Searching R T G Unit) (fun _ => True) failure := by
  apply ends_modify
  intro s ⟨hlab, _⟩
  refine ⟨hlab, ?_⟩
  intro x hx
  rw [← Option.some.inj hx]

private theorem ends_start :
    Ends (Stays seed inv) (modify fun s => { s with started := true } : Searching R T G Unit)
      (fun _ => True) failure :=
  ends_modify fun _ hs => hs

private theorem ends_count (q : Quantity) :
    Ends inv (count q : Action T G Int) (fun _ => True) fun _ => True := by
  unfold count
  split
  · exact ends_pure trivial
  · exact ends_throw trivial

end Rules

variable {inv : Lab T G → Prop} {cs : List (Candidate R)}

omit [Toolchain T] in
theorem ends_unevaluated :
    Ends inv (unevaluated cs) (fun pending => ∀ c ∈ pending, c ∈ cs) fun _ => True := by
  have hevaluated : ∀ c ∈ cs,
      Ends inv (do return !(← c.isEvaluated) : Action T G Bool) (fun _ => True) fun _ => True :=
    fun c _ => ends_get.bind fun _ _ => ends_pure trivial
  apply (Ends.filterM hevaluated).mono _ fun _ h => h
  intro pending hpending c hc
  exact (hpending c hc).1

theorem ends_evaluateEach (h : ∀ c ∈ cs, Ends inv c.evaluate? (fun _ => True) fun _ => True) :
    Ends inv (do for c in cs do let _ ← c.evaluate?) (fun _ => True) fun _ => True :=
  (Ends.forIn h).bind fun _ _ => ends_pure trivial

theorem ends_evaluateAll (h : ∀ c ∈ cs, Ends inv c.evaluate? (fun _ => True) fun _ => True) :
    Ends inv (evaluateAll cs) (fun _ => True) fun _ => True := by
  apply ends_unevaluated.bind
  intro pending hpending
  apply ends_evaluateEach
  intro c hc
  exact h c (hpending c (distinct_subset pending hc))

end Search

namespace Stalls

open Search

variable {seed : Candidate R} {inv : Lab T G → Prop} (h : Stalls seed inv)
  {population : List (Candidate R)}
include h

/-! ## The seed -/

private theorem evaluateCompiled? :
    Ends inv seed.evaluateCompiled? (fun result => result = none) fun _ => True := by
  apply h.isCompilable.bind
  intro compiles hno
  subst hno
  exact ends_pure rfl

theorem evaluateAll (hpop : ∀ c ∈ population, c = seed) :
    Ends inv (Search.evaluateAll population) (fun _ => True) fun _ => True := by
  apply ends_evaluateAll
  intro c hc
  rw [hpop c hc]
  exact h.evaluate?

private theorem mutate [Scalar R] [RandomSource G] :
    Ends inv seed.mutate (fun c => c = seed) fun _ => True := by
  apply h.isCompilable.bind
  intro compiles hno
  subst hno
  exact ends_pure rfl

variable [Scalar R]

private theorem fitness : Ends inv seed.fitness (fun _ => True) fun _ => True := by
  apply h.evaluateCompiled?.bind
  intro result hnone
  subst hnone
  exact ends_pure trivial

private theorem isRepair :
    Ends inv seed.isRepair (fun isRepair => isRepair = false) fun _ => True := by
  have hmeets : Ends inv (seed.meetsBaseline : Action T G Bool) (fun meets => meets = false)
      fun _ => True := by
    apply ends_get.bind
    intro s _
    cases s.baseline with
    | none => exact ends_pure rfl
    | some b =>
      apply h.evaluateCompiled?.bind
      intro result hnone
      subst hnone
      exact ends_pure rfl
  rw [Candidate.isRepair_eq]
  apply ends_get.bind
  intro s _
  split
  · exact h.fitness.bind fun _ _ => hmeets
  · exact hmeets

/-! ## The first population -/

variable [RandomSource G] (settings : SearchSettings R)

private theorem compilableMutant (attempts : Nat) :
    Ends inv (Search.compilableMutant seed attempts) (fun c => c = seed) fun _ => True := by
  induction attempts with
  | zero => exact ends_pure rfl
  | succ attempts ih =>
    apply h.mutate.bind
    intro c hc
    subst hc
    apply h.isCompilable.bind
    intro compiles hno
    subst hno
    exact ih

private theorem mutant : Ends inv (Search.mutant settings seed) (fun c => c = seed) fun _ => True :=
  (ends_count _).bind fun n _ => h.compilableMutant n.toNat

private theorem fillWith (missing : Nat) :
    Ends inv (Search.fillWith settings seed missing) (fun cs => ∀ c ∈ cs, c = seed)
      fun _ => True := by
  induction missing with
  | zero => exact ends_pure (by simp)
  | succ missing ih =>
    apply (h.mutant settings).bind
    intro c hc
    apply ih.bind
    intro cs hcs
    apply ends_pure
    intro d hd
    rcases List.mem_cons.mp hd with rfl | hd
    · exact hc
    · exact hcs d hd

private theorem initial :
    Ends inv (Search.initial settings seed) (fun cs => ∀ c ∈ cs, c = seed) fun _ => True := by
  apply (h.fillWith settings _).bind
  intro cs hcs
  apply ends_pure
  intro d hd
  rcases List.mem_cons.mp hd with rfl | hd
  · rfl
  · exact hcs d hd

theorem launch :
    Ends (Stays seed inv) (Search.launch settings seed) (fun cs => ∀ c ∈ cs, c = seed)
      fun _ => True := by
  have hone : ∀ c ∈ [seed], c = seed := by simp
  apply (ends_enter _).bind
  intro _ _
  apply (ends_inLab (h.evaluateAll hone)).bind
  intro _ _
  apply (ends_setBest Scalar.origin).bind
  intro _ _
  apply (ends_inLab h.fitness).bind
  intro r _
  apply (ends_setBest r).bind
  intro _ _
  apply (ends_inLab (h.initial settings)).bind
  intro cs hcs
  exact (ends_report _).bind fun _ _ => ends_pure hcs

/-! ## The search -/

omit [RandomSource G] in
private theorem scoreAll (hpop : ∀ c ∈ population, c = seed) (generation : Int) :
    Ends (Stays seed inv) (Search.scoreAll generation population) (fun repair => repair = none)
      fun _ => True := by
  induction population with
  | nil => exact ends_pure rfl
  | cons c cs ih =>
    obtain rfl := hpop c List.mem_cons_self
    apply (ends_inLab h.fitness).bind
    intro r _
    apply (ends_inLab h.isRepair).bind
    intro isRepair hno
    subst hno
    apply (ends_report _).bind
    intro _ _
    apply ends_get.bind
    intro s _
    have hrest := ih fun d hd => hpop d (List.mem_cons_of_mem c hd)
    have hset := (ends_setBest r).bind fun _ _ => hrest
    cases s.best with
    | none => exact hset
    | some best =>
      dsimp only
      split
      · exact hset
      · exact hrest

variable {evaluate : List (Candidate R) → Action T G Unit}

omit [RandomSource G] in
theorem evaluateGenerationBy (hpop : ∀ c ∈ population, c = seed) (generation : Int)
    (hevaluate : Ends inv (evaluate population) (fun _ => True) fun _ => True) :
    Ends (Stays seed inv) (Search.evaluateGenerationBy evaluate population generation)
      (fun repair => repair = none) fun _ => True := by
  apply (ends_enter _).bind
  intro _ _
  apply (ends_inLab hevaluate).bind
  intro _ _
  apply (h.scoreAll hpop generation).bind
  intro repair hnone
  subst hnone
  apply ends_get.bind
  intro s _
  cases s.best with
  | none => exact ends_throw trivial
  | some best => exact (ends_report _).bind fun _ _ => ends_pure rfl

omit [RandomSource G] in
theorem giveUp (state : SearchState) (generations : Quantity) :
    Ends (Stays seed inv) (Search.giveUp state generations)
      (fun result => result.candidate = seed ∧ result.generations = generations)
      fun _ => True := by
  apply ends_get.bind
  intro s hs
  cases hbest : s.best with
  | none => exact ends_throw trivial
  | some best =>
    obtain ⟨c, r⟩ := best
    obtain rfl := hs.2 _ hbest
    apply (ends_enter _).bind
    intro _ _
    apply (ends_inLab h.fitness).bind
    intro r _
    apply (ends_inLab h.isRepair).bind
    intro isRepair _
    exact ends_pure ⟨rfl, rfl⟩

theorem advance (hpop : ∀ c ∈ population, c = seed) (generation : Int) :
    Ends (Stays seed inv) (Search.advance settings population generation)
      (fun next => next = none) fun _ => True := by
  have hcompilable : ∀ c ∈ population,
      Ends inv c.isCompilable (fun compiles => compiles = false) fun _ => True := by
    intro c hc
    rw [hpop c hc]
    exact h.isCompilable
  apply (ends_inLab (Ends.filterM hcompilable)).bind
  intro cs hcs
  have hempty : cs = [] := by
    apply List.eq_nil_iff_forall_not_mem.mpr
    intro c hc
    exact nomatch (hcs c hc).2
  subst hempty
  exact ends_pure rfl

variable {evaluateBy : Int → List (Candidate R) → Action T G Unit}

private theorem generationsBy (hpop : ∀ c ∈ population, c = seed) (generation : Int) (left : Nat) :
    Ends (Stays seed inv) (Search.generationsBy settings evaluateBy population generation left)
      (fun result => result.candidate = seed) fun _ => True := by
  cases left with
  | zero => exact (h.giveUp _ _).mono (fun _ hresult => hresult.1) fun _ _ => trivial
  | succ left =>
    apply (h.advance settings hpop generation).bind
    intro next hnone
    subst hnone
    exact (h.giveUp _ _).mono (fun _ hresult => hresult.1) fun _ _ => trivial

variable (hevaluate : ∀ generation population, (∀ c ∈ population, c = seed) →
  Ends inv (evaluateBy generation population) (fun _ => True) fun _ => True)
include hevaluate

private theorem runBy :
    Ends (Stays seed inv) (Search.runBy settings evaluateBy seed)
      (fun result => result.candidate = seed) fun _ => True := by
  apply (h.launch settings).bind
  intro population hpop
  apply (h.evaluateGenerationBy hpop 0 (hevaluate 0 population hpop)).bind
  intro repair hnone
  subst hnone
  apply (ends_inLab (ends_count _)).bind
  intro limit _
  exact h.generationsBy settings hpop 1 limit.toNat

theorem searchBy :
    Ends (Stays seed inv) (Search.searchBy settings evaluateBy seed)
      (fun result => result.candidate = seed) fun _ => True := by
  apply ends_get.bind
  intro s _
  split
  · exact ends_throw trivial
  · dsimp only
    apply ends_start.bind
    intro _ _
    apply (ends_report _).bind
    intro _ _
    apply (h.runBy settings hevaluate).bind
    intro result hresult
    exact (ends_report _).bind fun _ _ => ends_pure hresult

end Stalls

end GeneticRepair
