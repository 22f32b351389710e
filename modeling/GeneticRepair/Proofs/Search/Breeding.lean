import GeneticRepair.Proofs.Candidate.Bounds
import GeneticRepair.Proofs.Candidate.Crossover
import GeneticRepair.Proofs.Candidate.Scoring
import GeneticRepair.Proofs.Search.Population
import GeneticRepair.Random.MersenneTwister

/-!
# Breeding ends

However members are selected, breeding ends: every selection shrinks a pool, and every round adds
both parents. The next generation is full, and consists of members of the population and of
offspring that compile. No round crosses candidates with the same lines, if the population holds
different ones.
-/

namespace GeneticRepair

variable {R T G : Type}

/-- If the attempts at a crossing are limited, then by an integer. -/
def Crossover.Limited (x : Crossover) : Prop :=
  ∀ q, x = .structural q → q.int? ≠ none

namespace Search

/-! ## Pools -/

section Pools

variable {c d : Candidate R} {pool : List (Candidate R)}

private theorem length_removeSame (h : c ∈ pool) :
    (removeSame c pool).length + 1 = pool.length := by
  induction pool with
  | nil => cases h
  | cons d pool ih =>
    rw [removeSame]
    by_cases hd : d.same c = true
    · rw [if_pos hd, List.length_cons]
    · have hc : c ∈ pool := by
        rcases List.mem_cons.mp h with rfl | hc
        · exact (hd (Candidate.same_refl c)).elim
        · exact hc
      rw [if_neg hd, List.length_cons, ih hc, List.length_cons]

private theorem mem_removeSame (hd : d ∈ pool) (hother : ¬ c.same d = true) :
    d ∈ removeSame c pool := by
  induction pool with
  | nil => cases hd
  | cons e pool ih =>
    rw [removeSame]
    split
    · rename_i he
      rcases List.mem_cons.mp hd with rfl | hd
      · exact (hother (Candidate.same_comm c d ▸ he)).elim
      · exact hd
    · rcases List.mem_cons.mp hd with rfl | hd
      · exact List.mem_cons_self
      · exact List.mem_cons_of_mem e (ih hd)

private theorem exists_other_left {x : Candidate R} (h : ∃ d ∈ pool, x.same d = false)
    (y : Candidate R) :
    ∃ d ∈ y :: removeSame y pool, x.same d = false := by
  obtain ⟨d, hd, hother⟩ := h
  cases hy : x.same y with
  | false => exact ⟨y, List.mem_cons_self, hy⟩
  | true =>
    refine ⟨d, List.mem_cons_of_mem y (mem_removeSame hd ?_), hother⟩
    intro hsame
    cases (Candidate.same_trans hy hsame).symm.trans hother

private theorem removeSame_cons_subset (h : c ∈ pool) : c :: removeSame c pool ⊆ pool :=
  List.cons_subset.mpr ⟨h, (removeSame_sublist c pool).subset⟩

def poolAfter (x : Candidate R) (population : List (Candidate R)) : List (Candidate R) :=
  if population.length > 1 then removeSame x population else population

theorem poolAfter_sublist (c : Candidate R) (pool : List (Candidate R)) :
    (poolAfter c pool).Sublist pool := by
  unfold poolAfter
  split
  · exact removeSame_sublist c pool
  · exact List.Sublist.refl _

private theorem poolAfter_ne_nil (h : c ∈ pool) : poolAfter c pool ≠ [] := by
  unfold poolAfter
  split
  · intro hnil
    have hlength := length_removeSame h
    rw [hnil, List.length_nil] at hlength
    omega
  · exact List.ne_nil_of_mem h

private theorem mem_poolAfter (hd : d ∈ pool) (hother : ¬ c.same d = true) :
    d ∈ poolAfter c pool := by
  unfold poolAfter
  split
  · exact mem_removeSame hd hother
  · exact hd

/-- The population holds candidates with different lines. -/
def Mixed (population : List (Candidate R)) : Prop :=
  ∃ c ∈ population, ∃ d ∈ population, c.same d = false

private theorem Mixed.exists_other (h : Mixed pool) (x : Candidate R) :
    ∃ d ∈ pool, x.same d = false := by
  obtain ⟨c, hc, d, hd, hother⟩ := h
  cases hxc : x.same c with
  | false => exact ⟨c, hc, hxc⟩
  | true =>
    refine ⟨d, hd, ?_⟩
    by_contra hxd
    have hcd := Candidate.same_trans (Candidate.same_comm x c ▸ hxc) (by simpa using hxd)
    cases hcd.symm.trans hother

end Pools

variable [Toolchain T] {k : Contract T}
  {select : List (Candidate R) → Action T G (Candidate R)} {population : List (Candidate R)}

/-- From every pool of members of the population one is selected. -/
def Selects (k : Contract T) (select : List (Candidate R) → Action T G (Candidate R))
    (population : List (Candidate R)) : Prop :=
  ∀ pool, pool.Sublist population → pool ≠ [] →
    Ends k.Binds (select pool) (· ∈ pool) fun _ => False

/-! ## Parents -/

/-- The second parent is selected again and again, from what is left of the pool. -/
inductive Reselects (select : List (Candidate R) → Action T G (Candidate R)) (x : Candidate R) :
    Candidate R → List (Candidate R) → Lab T G → Candidate R → Lab T G → Prop
  | settled {y : Candidate R} {pool : List (Candidate R)} {s : Lab T G}
      (found : x.same y = false ∨ pool = []) : Reselects select x y pool s y s
  | again {y y' z : Candidate R} {pool : List (Candidate R)} {s s₁ s' : Lab T G}
      (same : x.same y = true) (left : pool ≠ []) (selected : Returns (select pool) s y' s₁)
      (rest : Reselects select x y' (removeSame y' pool) s₁ z s') :
      Reselects select x y pool s z s'

/-- Two parents are selected. -/
inductive Pairs (select : List (Candidate R) → Action T G (Candidate R))
    (population : List (Candidate R)) (s : Lab T G) : Candidate R × Candidate R → Lab T G → Prop
  | mk {x y z : Candidate R} {s₁ s₂ s' : Lab T G} (first : Returns (select population) s x s₁)
      (second : Returns (select (poolAfter x population)) s₁ y s₂)
      (reselected : Reselects select x y (removeSame y (poolAfter x population)) s₂ z s') :
      Pairs select population s (x, z) s'

/-- What is left of the pool suffices. -/
theorem exists_reselects (h : Selects k select population) (x : Candidate R) (fuel : Nat)
    {y : Candidate R} {pool : List (Candidate R)} (hpool : pool.Sublist population)
    (hfuel : pool.length ≤ fuel) {s : Lab T G} (hs : k.Binds s) :
    ∃ z s', Returns (selectOther select x fuel y pool) s z s' ∧
      Reselects select x y pool s z s' := by
  induction fuel generalizing y pool s with
  | zero =>
    obtain rfl := List.length_eq_zero_iff.mp (Nat.le_zero.mp hfuel)
    exact ⟨y, s, returns_pure.mpr ⟨rfl, rfl⟩, .settled (.inr rfl)⟩
  | succ fuel ih =>
    rw [selectOther]
    by_cases hagain : (x.same y && !pool.isEmpty) = true
    · obtain ⟨hsame, hleft⟩ : x.same y = true ∧ pool ≠ [] := by simpa using hagain
      obtain ⟨y', s₁, hselected, hy', hs₁⟩ := (h pool hpool hleft).exists_returns hs
      have hshorter : (removeSame y' pool).length ≤ fuel := by
        have hlength := length_removeSame hy'
        omega
      obtain ⟨z, s', hreturns, hrest⟩ :=
        ih ((removeSame_sublist y' pool).trans hpool) hshorter hs₁
      rw [if_pos hagain]
      exact ⟨z, s', returns_bind.mpr ⟨y', s₁, hselected, hreturns⟩,
        .again hsame hleft hselected hrest⟩
    · rw [if_neg hagain]
      refine ⟨y, s, returns_pure.mpr ⟨rfl, rfl⟩, .settled ?_⟩
      simpa [or_iff_not_imp_left] using hagain

private theorem Reselects.proper (h : Selects k select population) {x y z : Candidate R}
    {pool : List (Candidate R)} {s s' : Lab T G} (hrun : Reselects select x y pool s z s')
    (hpool : pool.Sublist population) (hs : k.Binds s) :
    k.Binds s' ∧ z ∈ y :: pool ∧ ((∃ d ∈ y :: pool, x.same d = false) → x.same z = false) := by
  induction hrun with
  | settled found =>
    refine ⟨hs, List.mem_cons_self, ?_⟩
    rintro ⟨d, hd, hother⟩
    rcases found with hfound | rfl
    · exact hfound
    · rwa [← List.mem_singleton.mp hd]
  | @again y y' z pool _ _ _ same left selected _ ih =>
    obtain ⟨hy', hs₁⟩ := (h pool hpool left).of_returns hs selected
    obtain ⟨hs', hz, hdiffers⟩ := ih ((removeSame_sublist y' pool).trans hpool) hs₁
    refine ⟨hs', List.mem_cons_of_mem y (removeSame_cons_subset hy' hz), ?_⟩
    rintro ⟨d, hd, hother⟩
    have hd : d ∈ pool := by
      rcases List.mem_cons.mp hd with rfl | hd
      · cases same.symm.trans hother
      · exact hd
    exact hdiffers (exists_other_left ⟨d, hd, hother⟩ y')

private theorem exists_pairs (h : Selects k select population) (hpop : population ≠ [])
    {s : Lab T G}
    (hs : k.Binds s) :
    ∃ xy s', Returns (parents select population) s xy s' ∧ Pairs select population s xy s' := by
  obtain ⟨x, s₁, hfirst, hx, hs₁⟩ := (h _ (List.Sublist.refl _) hpop).exists_returns hs
  have hpool := poolAfter_sublist x population
  obtain ⟨y, s₂, hsecond, hy, hs₂⟩ := (h _ hpool (poolAfter_ne_nil hx)).exists_returns hs₁
  have hleft := removeSame_sublist y (poolAfter x population)
  obtain ⟨z, s', hreturns, hreselected⟩ :=
    exists_reselects h x _ (y := y) (hleft.trans hpool) hleft.length_le hs₂
  refine ⟨(x, z), s', ?_, .mk hfirst hsecond hreselected⟩
  refine returns_bind.mpr ⟨x, s₁, hfirst, returns_bind.mpr ⟨y, s₂, hsecond, ?_⟩⟩
  exact returns_bind.mpr ⟨z, s', hreturns, returns_pure.mpr ⟨rfl, rfl⟩⟩

private theorem Pairs.proper (h : Selects k select population) (hpop : population ≠ [])
    {s s' : Lab T G}
    {xy : Candidate R × Candidate R} (hrun : Pairs select population s xy s') (hs : k.Binds s) :
    k.Binds s' ∧ xy.1 ∈ population ∧ xy.2 ∈ population ∧
      (Mixed population → xy.1.same xy.2 = false) := by
  cases hrun with
  | @mk x y z _ _ _ hfirst hsecond hreselected =>
    obtain ⟨hx, hs₁⟩ := (h _ (List.Sublist.refl _) hpop).of_returns hs hfirst
    have hpool := poolAfter_sublist x population
    obtain ⟨hy, hs₂⟩ := (h _ hpool (poolAfter_ne_nil hx)).of_returns hs₁ hsecond
    obtain ⟨hs', hz, hdiffers⟩ :=
      hreselected.proper h ((removeSame_sublist y _).trans hpool) hs₂
    have hmem : z ∈ population := hpool.subset (removeSame_cons_subset hy hz)
    refine ⟨hs', hx, hmem, fun hmixed => hdiffers (exists_other_left ?_ y)⟩
    obtain ⟨d, hd, hother⟩ := hmixed.exists_other x
    exact ⟨d, mem_poolAfter hd (by simp [hother]), hother⟩

/-! ## Rounds -/

variable [RandomSource G]

/-- Two parents, and those of their offspring that compile. -/
structure Round (R : Type) where
  first : Candidate R
  second : Candidate R
  children : List (Candidate R)

namespace Round

/-- What a round adds to the next generation. -/
def members (r : Round R) : List (Candidate R) :=
  [r.first, r.second] ++ r.children

/-- The parents are members of the population, and differ if its members do; the children come of
their crossing, and are said to compile. -/
structure Proper (T G : Type) [Toolchain T] [RandomSource G] (population : List (Candidate R))
    (r : Round R) : Prop where
  first_mem : r.first ∈ population
  second_mem : r.second ∈ population
  differ : Mixed population → r.first.same r.second = false
  children : ∀ c ∈ r.children, ∃ (uv : Candidate R × Candidate R) (s₁ s₂ s₃ s₄ : Lab T G),
    Returns (r.first.crossover r.second) s₁ uv s₂ ∧ c ∈ [uv.1, uv.2] ∧
      Returns c.isCompilable s₃ true s₄

end Round

/-- Rounds follow each other until there are enough offspring. -/
inductive Breeds (select : List (Candidate R) → Action T G (Candidate R))
    (population : List (Candidate R)) (size : Nat) :
    List (Candidate R) → Lab T G → List (Round R) → Lab T G → Prop
  | full {offspring : List (Candidate R)} {s : Lab T G} (enough : size ≤ offspring.length) :
      Breeds select population size offspring s [] s
  | round {offspring children : List (Candidate R)} {x y : Candidate R}
      {uv : Candidate R × Candidate R} {rounds : List (Round R)} {s s₁ s₂ s₃ s' : Lab T G}
      (missing : offspring.length < size) (selected : Pairs select population s (x, y) s₁)
      (crossed : Returns (x.crossover y) s₁ uv s₂)
      (compile : Returns ([uv.1, uv.2].filterM fun c => c.isCompilable) s₂ children s₃)
      (rest : Breeds select population size (offspring ++ [x, y] ++ children) s₃ rounds s') :
      Breeds select population size offspring s (⟨x, y, children⟩ :: rounds) s'

/-- All crossings of the population are limited by integers, if at all. -/
def Crossable (population : List (Candidate R)) : Prop :=
  ∀ c ∈ population, c.strategies.crossover.Limited

private theorem ends_crossover_of_crossable (h : Crossable population) {x : Candidate R}
    (hx : x ∈ population) (y : Candidate R) :
    Ends (k.Binds (G := G)) (x.crossover y) (fun _ => True) fun _ => False := by
  refine Candidate.ends_crossover.mono (fun _ _ => trivial) ?_
  rintro e ⟨-, q, hq, hnone⟩
  exact h x hx q hq hnone

omit [RandomSource G] in
private theorem ends_compilable (havailable : k.Available) (cs : List (Candidate R)) :
    Ends (k.Binds (G := G)) (cs.filterM fun c => c.isCompilable)
      (fun kept => ∀ c ∈ kept, c ∈ cs ∧ ∃ s s' : Lab T G, Returns c.isCompilable s true s')
      fun _ => False := by
  apply Ends.filterM (P := fun (c : Candidate R) b =>
    ∃ s s' : Lab T G, Returns c.isCompilable s b s')
  intro c _ s hs
  obtain ⟨b, s', hreturns, -, hs'⟩ :=
    (Candidate.ends_isCompilable (havailable.spares _)).exists_returns hs
  rw [hreturns]
  exact ⟨⟨s, s', hreturns⟩, hs'⟩

variable {settings : SearchSettings R}

/-- Every round adds both parents at least, so no more rounds are needed than there is fuel for. -/
theorem exists_breeds (h : Selects k select population) (havailable : k.Available)
    (hpop : population ≠ []) (hcrossable : Crossable population) (fuel : Nat)
    {offspring : List (Candidate R)}
    (hfuel : settings.populationSize.ceiling ≤ offspring.length + 2 * fuel) {s : Lab T G}
    (hs : k.Binds s) :
    ∃ rounds s', Breeds select population settings.populationSize.ceiling offspring s rounds s' ∧
      Returns (breedUntil settings select population fuel offspring) s
        (offspring ++ rounds.flatMap Round.members) s' := by
  induction fuel generalizing offspring s with
  | zero => exact ⟨[], s, .full hfuel, returns_pure.mpr ⟨by simp, rfl⟩⟩
  | succ fuel ih =>
    rw [breedUntil]
    split
    · rename_i hmissing
      obtain ⟨⟨x, y⟩, s₁, hparents, hpairs⟩ := exists_pairs h hpop hs
      obtain ⟨hs₁, hx, -⟩ := hpairs.proper h hpop hs
      obtain ⟨uv, s₂, hcrossed, -, hs₂⟩ :=
        (ends_crossover_of_crossable hcrossable hx y).exists_returns hs₁
      obtain ⟨children, s₃, hcompile, -, hs₃⟩ :=
        (ends_compilable havailable [uv.1, uv.2]).exists_returns hs₂
      have hfuel' : settings.populationSize.ceiling ≤
          (offspring ++ [x, y] ++ children).length + 2 * fuel := by
        simp only [List.length_append, List.length_cons, List.length_nil]
        omega
      obtain ⟨rounds, s', hrest, hreturns⟩ := ih hfuel' hs₃
      refine ⟨⟨x, y, children⟩ :: rounds, s', .round hmissing hpairs hcrossed hcompile hrest, ?_⟩
      refine returns_bind.mpr ⟨_, s₁, hparents, returns_bind.mpr ⟨_, s₂, hcrossed, ?_⟩⟩
      refine returns_bind.mpr ⟨_, s₃, hcompile, ?_⟩
      simpa [Round.members] using hreturns
    · rename_i hfull
      exact ⟨[], s, .full (Nat.le_of_not_lt hfull), returns_pure.mpr ⟨by simp, rfl⟩⟩

private theorem Breeds.proper (h : Selects k select population) (havailable : k.Available)
    (hpop : population ≠ []) (hcrossable : Crossable population) {size : Nat}
    {offspring : List (Candidate R)} {s s' : Lab T G} {rounds : List (Round R)}
    (hrun : Breeds select population size offspring s rounds s') (hs : k.Binds s) :
    size ≤ (offspring ++ rounds.flatMap Round.members).length ∧
      ∀ r ∈ rounds, r.Proper T G population := by
  induction hrun with
  | full enough => simpa using enough
  | round _ selected crossed compile _ ih =>
    obtain ⟨hs₁, hx, hy, hdiffer⟩ := selected.proper h hpop hs
    obtain ⟨-, hs₂⟩ := (ends_crossover_of_crossable hcrossable hx _).of_returns hs₁ crossed
    obtain ⟨hchildren, hs₃⟩ := (ends_compilable havailable _).of_returns hs₂ compile
    obtain ⟨hsize, hproper⟩ := ih hs₃
    refine ⟨by simpa [Round.members] using hsize, ?_⟩
    intro r hr
    rcases List.mem_cons.mp hr with rfl | hr
    · refine ⟨hx, hy, hdiffer, fun c hc => ?_⟩
      obtain ⟨hmem, s₃, s₄, hcompiles⟩ := hchildren c hc
      exact ⟨_, _, _, s₃, s₄, crossed, hmem, hcompiles⟩
    · exact hproper r hr

/-- Breeding ends if members can be selected, the tools can be used, and all crossings have a limit.
The next generation is full, and each of its members is one of the population or a child that is
said to compile. -/
theorem breedBy_full (h : Selects k select population) (havailable : k.Available)
    (hpop : population ≠ []) (hcrossable : Crossable population) {n : Int}
    (hn : settings.populationSize.int? = some n) {s : Lab T G} (hs : k.Binds s) :
    ∃ next rounds s', Returns (breedBy settings select population) s next s' ∧
      Breeds select population n.toNat [] s rounds s' ∧
      next = (rounds.flatMap Round.members).take n.toNat ∧ next.length = n.toNat ∧
      (∀ c ∈ next, c ∈ population ∨ ∃ r ∈ rounds, c ∈ r.children) ∧
      ∀ r ∈ rounds, r.Proper T G population := by
  have hfuel : settings.populationSize.ceiling ≤
      ([] : List (Candidate R)).length + 2 * settings.populationSize.ceiling := by omega
  obtain ⟨rounds, s', hbreeds, hreturns⟩ := exists_breeds h havailable hpop hcrossable _ hfuel hs
  rw [Quantity.ceiling_eq hn] at hbreeds
  obtain ⟨henough, hproper⟩ := hbreeds.proper h havailable hpop hcrossable hs
  rw [List.nil_append] at henough hreturns
  refine ⟨_, rounds, s', ?_, hbreeds, rfl, ?_, ?_, hproper⟩
  · refine returns_bind.mpr ⟨_, s', hreturns, ?_⟩
    have hcount : Returns (count settings.populationSize : Action T G Int) s' n s' := by
      rw [count, hn]
      exact returns_pure.mpr ⟨rfl, rfl⟩
    exact returns_bind.mpr ⟨n, s', hcount, returns_pure.mpr ⟨rfl, rfl⟩⟩
  · rw [List.length_take]
    omega
  · intro c hc
    obtain ⟨r, hr, hc⟩ := List.mem_flatMap.mp (List.mem_of_mem_take hc)
    rcases List.mem_append.mp hc with hc | hc
    · rcases List.mem_pair.mp hc with rfl | rfl
      · exact .inl (hproper r hr).first_mem
      · exact .inl (hproper r hr).second_mem
    · exact .inr ⟨r, hr, hc⟩

private theorem selects_tournament [Scalar R] (havailable : k.Available)
    (hscores : ∀ c ∈ population, c.ScoresOr fun _ => False) :
    Selects k (Candidate.select : List (Candidate R) → Action T G _) population := by
  intro pool hpool hne
  exact Candidate.ends_select (havailable.spares _) (fun c hc => hscores c (hpool.subset hc)) hne

end Search

/-! ## A pair to breed from -/

namespace WrongSum

def pair : List (Candidate Quantity) :=
  [seed, corrected]

def breedingLab : Lab Simulation MersenneTwister :=
  ⟨.new rules, #[.empty, .empty], none, .ofSeed 0⟩

def breedingSettings : SearchSettings Quantity :=
  ⟨.ofInt 3, .ofInt 0, .ofInt 0, .ofInt 1, .ofInt 1⟩

private theorem available : (Simulation.contract rules).Available :=
  Simulation.available_contract rfl

private theorem selects_pair :
    Search.Selects (G := MersenneTwister) (Simulation.contract rules) Candidate.select pair := by
  refine Search.selects_tournament available fun c hc b passing e he => ?_
  rcases List.mem_pair.mp hc with rfl | rfl <;> cases he

private theorem crossable_pair : Search.Crossable pair := by
  intro c hc q hq
  rcases List.mem_pair.mp hc with rfl | rfl <;> cases hq

/-- Three candidates are bred from two, which are crossed with each other. -/
theorem breed_pair : ∃ next rounds s',
    Returns (Search.breed breedingSettings pair) breedingLab next s' ∧ next.length = 3 ∧
      Search.Breeds Candidate.select pair 3 [] breedingLab rounds s' ∧
      ∀ r ∈ rounds, r.first.same r.second = false := by
  have hvalid : (Simulation.contract rules).Binds breedingLab := rfl
  have hsize : breedingSettings.populationSize.int? = some 3 := rfl
  have hmixed : Search.Mixed pair :=
    ⟨seed, List.mem_cons_self, corrected, List.mem_pair.mpr (.inr rfl), by decide⟩
  obtain ⟨next, rounds, s', hreturns, hbreeds, -, hlength, -, hproper⟩ :=
    Search.breedBy_full selects_pair available (List.cons_ne_nil _ _) crossable_pair hsize hvalid
  exact ⟨next, rounds, s', hreturns, hlength, hbreeds, fun r hr => (hproper r hr).differ hmixed⟩

end WrongSum

end GeneticRepair
