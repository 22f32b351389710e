import GeneticRepair.Proofs.Config.Checked
import GeneticRepair.Proofs.Config.Comparison
import GeneticRepair.Proofs.File.Tree
import GeneticRepair.Proofs.Search.Counts
import GeneticRepair.Toolchain.Process

/-!
# Configurations that are accepted

What a configuration holds once it has been read, and what can be done with it. Its seed, its number
of threads and its mutation rate are as they should be. The counts of its search are integers unless
the document gives floats for them, which are compared but never refused; and a float that is no
number passes as a count, as a time limit and as a weight. The strategies can always be built anew.
A search is prepared unless one of its counts is too long to be shown, and does not fail for want of
an integer if its counts are integers.
-/

namespace GeneticRepair

/-! ## Counts of a search -/

/-- A setting that a search counts with. -/
structure CountSetting where
  name : String
  least : Nat
  of : SearchSettings Quantity → Quantity

namespace CountSetting

def population : CountSetting :=
  ⟨"population", 1, (·.populationSize)⟩

def generations : CountSetting :=
  ⟨"generations", 0, (·.numGenerations)⟩

def attempts : CountSetting :=
  ⟨"mutation-attempts", 1, (·.maxMutationAttempts)⟩

def all : List CountSetting :=
  [population, generations, attempts]

private theorem forall_mem_all {P : CountSetting → Prop} :
    (∀ k ∈ all, P k) ↔ P population ∧ P generations ∧ P attempts := by
  simp [all]

/-- The count is an integer that is not too small. -/
def Fits (k : CountSetting) (s : SearchSettings Quantity) : Prop :=
  ∃ n : Int, (k.of s).int? = some n ∧ k.least ≤ n

/-- The count is a float that the document gives. It is not too small, or it is no number. -/
def Slips (k : CountSetting) (o : Overrides) (v : Value) (s : SearchSettings Quantity) : Prop :=
  ∃ x, o.setting? k.name = none ∧ Config.given? v "algorithm" k.name = some (.float x) ∧
    k.of s = .number (.float x) ∧
    (Scalar.atMost (.ofInt k.least) (k.of s) = true ∨ (k.of s).IsNaN)

end CountSetting

/-! ## Strategies -/

def Crossover.attempts? : Crossover → Option Quantity
  | raw => none
  | structural attempts => some attempts

/-- All strategies can be built anew. -/
structure Strategies.Buildable (s : Strategies Quantity) : Prop where
  mutator : Mutator.ofName s.mutator.name s.mutator.crossScope none = .ok s.mutator
  crossover : Crossover.ofName s.crossover.name s.crossover.attempts? = .ok s.crossover
  metric : Metric.named s.metric.name = .ok s.metric
  weights : Weights.new s.weights.positive s.weights.negative = .ok s.weights

namespace Config

variable {here : Surroundings} {directory : Option String} {o : Overrides} {v : Value} {c : Config}

/-! ## Parts of a configuration -/

/-- From which parts of a document the parts of a configuration are read. -/
structure ReadFrom (here : Surroundings) (directory : Option String) (o : Overrides) (v : Value)
    (c : Config) : Prop where
  program : ∃ s, programOf here directory s = .ok c.program
  search : ∃ a s, sectionOf v "algorithm" = .ok a ∧
    searchOf (overrideIn "population" o.population (overrideIn "generations" o.generations a)) =
      .ok s ∧ c.search = { s with threads := c.search.threads }
  weights : ∃ s, weightsOf s = .ok c.strategies.weights
  mutator : ∃ s, mutatorOf s = .ok c.strategies.mutator
  crossover : ∃ s, crossoverOf s = .ok c.strategies.crossover
  seed : ∃ w, integerOf o.seed v "seed" 0 = .ok w ∧ atLeast 0 .negativeSeed w = .ok c.seed
  threads : ∃ w, integerOf o.threads v "threads" 1 = .ok w ∧
    atLeast 1 .noThread w = .ok c.search.threads

private theorem readFrom_of_ok (h : ofValue here directory o v = .ok c) :
    ReadFrom here directory o v c := by
  unfold ofValue at h
  simp only [bind_eq_ok] at h
  obtain ⟨_, -, _, -, patches, -, a, ha, p, -, program, hprogram, s, hs, f, -, weights, hweights, l,
    -, metric, -, m, -, mutator, hmutator, x, -, crossover, hcrossover, w, hw, t, ht, _, -, seed,
    hseed, threads, hthreads, h⟩ := h
  cases h
  exact ⟨⟨p, hprogram⟩, ⟨a, s, ha, hs, rfl⟩, ⟨f, hweights⟩, ⟨m, hmutator⟩, ⟨x, hcrossover⟩,
    ⟨w, hw, hseed⟩, ⟨t, ht, hthreads⟩⟩

namespace ReadFrom

private theorem checked_program (h : ReadFrom here directory o v c) : c.program.Checked := by
  obtain ⟨s, hs⟩ := h.program
  have hmeets : Meets ProgramConfig.Checked (fun _ => True) (programOf here directory s) :=
    meets_programOf (fun _ => trivial) fun _ _ _ => trivial
  exact hmeets.of_ok hs

private theorem checked_search (h : ReadFrom here directory o v c) : c.search.Checked := by
  obtain ⟨a, s, -, hs, hsearch⟩ := h.search
  have hmeets : Meets SearchSettings.Checked (fun _ => True) (searchOf (overrideIn "population"
      o.population (overrideIn "generations" o.generations a))) :=
    meets_searchOf (fun _ => trivial) (fun _ _ _ _ _ => trivial) fun _ _ _ => trivial
  have hchecked := hmeets.of_ok hs
  rw [hsearch]
  exact ⟨hchecked.population, hchecked.generations, hchecked.mutationRate,
    hchecked.mutationAttempts⟩

private theorem checked_weights (h : ReadFrom here directory o v c) :
    c.strategies.weights.Checked := by
  obtain ⟨s, hs⟩ := h.weights
  have hmeets : Meets Weights.Checked (fun _ => True) (weightsOf s) :=
    meets_weightsOf (fun _ => trivial) (fun _ _ _ => trivial) fun _ _ _ => trivial
  exact hmeets.of_ok hs

private theorem checked_crossover (h : ReadFrom here directory o v c) :
    c.strategies.crossover.Checked := by
  obtain ⟨s, hs⟩ := h.crossover
  have hmeets : Meets Crossover.Checked (fun _ => True) (crossoverOf s) :=
    meets_crossoverOf fun _ => trivial
  exact hmeets.of_ok hs

end ReadFrom

private theorem of_atLeast {least : Nat} {m : Misconfiguration} {w : Value} {q : Quantity}
    (h : atLeast least m w = .ok q) :
    w.quantity? = some q ∧ Scalar.less q (.ofInt least) = false := by
  have hmeets : Meets _ (fun _ => True) (atLeast least m w) :=
    meets_atLeast (fun _ => trivial) fun _ => trivial
  exact hmeets.of_ok h

private theorem exists_int_of_integerOf {given : Option Int} {name : String} {default : Int}
    {least : Nat}
    {m : Misconfiguration} {w : Value} {q : Quantity}
    (hw : integerOf (given.map .int) v name default = .ok w) (h : atLeast least m w = .ok q) :
    ∃ n : Int, q = .ofInt n ∧ least ≤ n := by
  have hmeets : Meets _ (fun _ => True) (integerOf (given.map .int) v name default) :=
    meets_integerOf fun _ => trivial
  obtain ⟨n, rfl⟩ := hmeets.of_ok hw
  obtain ⟨hq, hleast⟩ := of_atLeast h
  cases hq
  exact ⟨n, rfl, Quantity.le_of_int? rfl hleast⟩

/-! ## The counts of the search -/

private theorem quantity?_of_searchOf {s : SearchSettings Quantity} (h : searchOf v = .ok s) :
    ∀ k ∈ CountSetting.all,
      (property v k.name (.ofQuantity (k.of .defaults))).quantity? = some (k.of s) := by
  unfold searchOf at h
  simp only [bind_eq_ok] at h
  obtain ⟨_, -, population, hpopulation, generations, hgenerations, rate, -, _, -, attempts,
    hattempts, h⟩ := h
  cases h
  exact CountSetting.forall_mem_all.mpr
    ⟨(of_atLeast hpopulation).1, (of_atLeast hgenerations).1, (of_atLeast hattempts).1⟩

end Config

private theorem SearchSettings.Checked.not_less {s : SearchSettings Quantity} (h : s.Checked) :
    ∀ k ∈ CountSetting.all, Scalar.less (k.of s) (.ofInt k.least) = false :=
  CountSetting.forall_mem_all.mpr ⟨h.population, h.generations, h.mutationAttempts⟩

private theorem Value.int_or_float_of_quantity? {w : Value} {q : Quantity}
    (h : w.quantity? = some q) :
    (∃ n, q.int? = some n) ∨ ∃ x, w = .float x ∧ q = .number (.float x) := by
  cases w with
  | int n =>
    cases h
    exact .inl ⟨n, rfl⟩
  | bool b =>
    cases h
    exact .inl ⟨_, rfl⟩
  | float x =>
    cases h
    exact .inr ⟨x, rfl, rfl⟩
  | _ => cases h

namespace CountSetting

private theorem exists_default : ∀ k ∈ all, ∃ n, (k.of .defaults).int? = some n :=
  forall_mem_all.mpr ⟨⟨_, rfl⟩, ⟨_, rfl⟩, ⟨_, rfl⟩⟩

/-- A count that is read and not too small is an integer, unless a float is given for it. -/
theorem fits_or_slips {o : Overrides} {v a : Value} {s : SearchSettings Quantity}
    {k : CountSetting} (hk : k ∈ all)
    (ho : ∀ name w, o.setting? name = some w → ∃ n, w = .int n)
    (ha : ∀ p, a.get? p = (o.setting? p).or (Config.given? v "algorithm" p))
    (hread : (Config.property a k.name (.ofQuantity (k.of .defaults))).quantity? = some (k.of s))
    (hleast : Scalar.less (k.of s) (.ofInt k.least) = false) : k.Fits s ∨ k.Slips o v s := by
  have hint : (∃ n, (k.of s).int? = some n) → k.Fits s := fun ⟨n, hn⟩ =>
    ⟨n, hn, Quantity.le_of_int? hn hleast⟩
  rw [Config.property, ha] at hread
  cases hoverride : o.setting? k.name with
  | some w =>
    obtain ⟨n, rfl⟩ := ho _ _ hoverride
    rw [hoverride, Option.some_or, Option.getD_some] at hread
    rw [← Option.some.inj hread] at hint
    exact .inl (hint ⟨n, rfl⟩)
  | none =>
    rw [hoverride, Option.none_or] at hread
    cases hgiven : Config.given? v "algorithm" k.name with
    | none =>
      rw [hgiven, Option.getD_none, Value.quantity?_ofQuantity] at hread
      rw [← Option.some.inj hread] at hint
      exact .inl (hint (exists_default k hk))
    | some w =>
      rw [hgiven, Option.getD_some] at hread
      rcases Value.int_or_float_of_quantity? hread with hn | ⟨x, rfl, hx⟩
      · exact .inl (hint hn)
      · exact .inr ⟨x, hoverride, hgiven, hx, Quantity.atMost_or_isNaN hleast⟩

end CountSetting

/-! ## Building anew -/

private theorem Mutator.ofName_name {name : String} {crossScope : Bool} {m : Mutator Quantity}
    (h : ofName name crossScope none = .ok m) : ofName m.name m.crossScope none = .ok m := by
  unfold ofName at h
  split at h
  · cases h
    rfl
  · cases h
  · next p hname =>
    have hm : m = .binaryOperator crossScope defaultProbability := by
      rw [newBinaryOperator] at h
      split at h
      · cases h
        rfl
      · cases h
    subst hm
    exact h
  · cases h

private theorem Crossover.ofName_name {x : Crossover} (h : x.Checked) :
    ofName x.name x.attempts? = .ok x := by
  cases x with
  | raw => rfl
  | structural attempts =>
    have hleast : Scalar.less attempts (.ofInt 1) = false := h
    show newStructural attempts = _
    rw [newStructural, hleast]
    rfl

private theorem Metric.named_name (m : Metric) : named m.name = .ok m := by
  cases m <;> rfl

private theorem Weights.new_eq {w : Weights Quantity} (h : w.Checked) :
    Weights.new w.positive w.negative = .ok w := by
  rw [Weights.new, h.positive, h.negative]
  rfl

namespace Config

private theorem ofName_of_mutatorOf {m : Mutator Quantity} (h : mutatorOf v = .ok m) :
    Mutator.ofName m.name m.crossScope none = .ok m := by
  unfold mutatorOf at h
  simp only [bind_eq_ok] at h
  obtain ⟨type, -, crossScope, -, h⟩ := h
  split at h
  · next hm =>
    cases h
    exact Mutator.ofName_name hm
  · cases h

private theorem limited_of_crossoverOf {x : Crossover} (h : crossoverOf v = .ok x) : x.Limited := by
  unfold crossoverOf at h
  simp only [bind_eq_ok] at h
  obtain ⟨type, -, attempts, hattempts, _, -, _, -, h⟩ := h
  have hint : attempts.int? ≠ none := by
    unfold count at hattempts
    split at hattempts
    · cases hattempts
      exact Option.some_ne_none _
    · cases hattempts
      exact Option.some_ne_none _
    · cases hattempts
  intro q hq
  subst hq
  split at h
  · cases h
  · cases h
    exact hint

/-! ## Announcing a search -/

private theorem shown_of_short {q : Quantity} (h : (Value.ofQuantity q).holdsLongInteger = false) :
    ∃ text, shown (.ofQuantity q) = .ok text := by
  rw [shown, h]
  exact ⟨_, rfl⟩

private theorem exists_fixed {q : Quantity} (hzero : Scalar.atMost Scalar.origin q = true)
    (hone : Scalar.atMost q (.ofInt 1) = true) (places : Nat) :
    ∃ text, q.fixed places = .ok text := by
  rw [Quantity.fixed, Number.fixed]
  cases hvalue : q.value with
  | float x => exact ⟨_, rfl⟩
  | int n =>
    change Number.atMost _ q.value = true at hzero
    change Number.atMost q.value _ = true at hone
    rw [hvalue] at hzero hone
    rcases Quantity.eq_zero_or_one_of_unit (n := n) hzero hone with rfl | rfl
    · exact ⟨_, rfl⟩
    · exact ⟨_, rfl⟩

private theorem exists_announcement {s : SearchSettings Quantity} (h : s.Checked)
    (hshort : ∀ k ∈ CountSetting.all, (Value.ofQuantity (k.of s)).holdsLongInteger = false) :
    ∃ text, announcement s = .ok text := by
  obtain ⟨hzero, hone⟩ := Bool.and_eq_true_iff.mp h.mutationRate
  obtain ⟨hpopulation, hgenerations, hattempts⟩ := CountSetting.forall_mem_all.mp hshort
  obtain ⟨generations, hgenerations⟩ : ∃ text, shown (.ofQuantity s.numGenerations) = .ok text :=
    shown_of_short hgenerations
  obtain ⟨population, hpopulation⟩ : ∃ text, shown (.ofQuantity s.populationSize) = .ok text :=
    shown_of_short hpopulation
  obtain ⟨rate, hrate⟩ := exists_fixed hzero hone 2
  obtain ⟨attempts, hattempts⟩ :
      ∃ text, shown (.ofQuantity s.maxMutationAttempts) = .ok text :=
    shown_of_short hattempts
  simp only [announcement, hgenerations, hpopulation, hrate, hattempts]
  exact ⟨_, rfl⟩

/-! ## Documents -/

/-- What a configuration holds that is accepted. -/
structure Accepted (o : Overrides) (v : Value) (c : Config) : Prop where
  seed : ∃ n : Int, c.seed = .ofInt n ∧ 0 ≤ n
  threads : ∃ n : Int, c.search.threads = .ofInt n ∧ 1 ≤ n
  mutationRate : Scalar.atMost Scalar.origin c.search.rateMutation = true ∧
    Scalar.atMost c.search.rateMutation (.ofInt 1) = true
  counts : ∀ k ∈ CountSetting.all, k.Fits c.search ∨ k.Slips o v c.search
  timeLimit : Scalar.less (.ofInt 0) c.program.timeLimit = true ∨ c.program.timeLimit.IsNaN
  positive : Scalar.atMost (.ofInt 0) c.strategies.weights.positive = true ∨
    c.strategies.weights.positive.IsNaN
  negative : Scalar.atMost (.ofInt 0) c.strategies.weights.negative = true ∨
    c.strategies.weights.negative.IsNaN

/-- What can be done with a configuration: its parts can be built, but for a search whose counts are
too long to be shown, and a search whose counts are integers does not fail for want of one. -/
structure Runs (c : Config) : Prop where
  strategies : c.strategies.Buildable
  interpreter : ∀ workspace,
    (Interpreter.new? c.program.interpreter c.program.timeLimit workspace).isSome = true
  announced : (∀ k ∈ CountSetting.all,
    (Value.ofQuantity (k.of c.search)).holdsLongInteger = false) →
      ∃ text, announcement c.search = .ok text
  searches : (∀ k ∈ CountSetting.all, k.Fits c.search) →
    ∀ (T G : Type) [Toolchain T] [Stepwise T] [RandomSource G] (schedules : Int → List Nat)
      (seed : Candidate Quantity), seed.strategies = c.strategies →
        Counts (Search.searchInPool schedules c.search seed :
          Searching Quantity T G (SearchResult Quantity)) fun _ => True

private theorem ReadFrom.accepted {seed threads generations population : Option Int}
    {patches : Option String}
    (h : ReadFrom here directory (.ofIntegers seed threads generations population patches) v c) :
    Accepted (.ofIntegers seed threads generations population patches) v c := by
  obtain ⟨w, hw, hseed⟩ := h.seed
  obtain ⟨t, ht, hthreads⟩ := h.threads
  obtain ⟨a, s, ha, hs, hsearch⟩ := h.search
  have hsection : Meets _ (fun _ => True) (sectionOf v "algorithm") :=
    meets_sectionOf fun _ => trivial
  obtain ⟨hmap, hgiven⟩ := hsection.of_ok ha
  refine ⟨exists_int_of_integerOf hw hseed, exists_int_of_integerOf ht hthreads,
    Bool.and_eq_true_iff.mp h.checked_search.mutationRate, ?_,
    Quantity.less_or_isNaN h.checked_program.timeLimit,
    Quantity.atMost_or_isNaN h.checked_weights.positive,
    Quantity.atMost_or_isNaN h.checked_weights.negative⟩
  intro k hk
  have hof : ∀ k ∈ CountSetting.all, k.of c.search = k.of s := by
    rw [hsearch]
    exact CountSetting.forall_mem_all.mpr ⟨rfl, rfl, rfl⟩
  have hquantity := quantity?_of_searchOf hs k hk
  rw [← hof k hk] at hquantity
  refine CountSetting.fits_or_slips hk (fun _ _ => Overrides.setting?_ofIntegers) (fun p => ?_)
    hquantity (h.checked_search.not_less k hk)
  rw [get?_overridden hmap, hgiven]

private theorem ReadFrom.runs (h : ReadFrom here directory o v c) : c.Runs := by
  obtain ⟨m, hm⟩ := h.mutator
  obtain ⟨x, hx⟩ := h.crossover
  refine ⟨⟨ofName_of_mutatorOf hm, Crossover.ofName_name h.checked_crossover,
    Metric.named_name _, Weights.new_eq h.checked_weights⟩, fun workspace => ?_,
    exists_announcement h.checked_search, ?_⟩
  · rw [Interpreter.new?, h.checked_program.timeLimit]
    rfl
  · intro hfits T G _ _ _ schedules seed hseed
    have hint : ∀ k ∈ CountSetting.all, (k.of c.search).int? ≠ none := by
      intro k hk
      obtain ⟨n, hn, -⟩ := hfits k hk
      rw [hn]
      exact Option.some_ne_none n
    have hlimited : seed.strategies.crossover.Limited := by
      rw [hseed]
      exact limited_of_crossoverOf hx
    obtain ⟨hpopulation, hgenerations, hattempts⟩ := CountSetting.forall_mem_all.mp hint
    exact Search.counts_searchInPool ⟨hpopulation, hgenerations, hattempts⟩ hlimited schedules

/-- Whatever the document, a configuration that is read from it holds what it should, but for counts
that are floats of the document, and for floats that are no number; and it can be run. -/
theorem ofValue_accepted (here : Surroundings) (directory : Option String)
    (seed threads generations population : Option Int) (patches : Option String) (v : Value) :
    Meets (fun c => c.Accepted (.ofIntegers seed threads generations population patches) v ∧ c.Runs)
      (fun _ => True)
      (ofValue here directory (.ofIntegers seed threads generations population patches) v) := by
  cases h : ofValue here directory (.ofIntegers seed threads generations population patches) v with
  | error e => trivial
  | ok c =>
    have hread := readFrom_of_ok h
    exact ⟨hread.accepted, hread.runs⟩

end Config

/-! ## A population of two and a half -/

namespace Fractional

def here : Surroundings :=
  ⟨"/work", "python"⟩

def document (population : Value) : Value :=
  .map [("program", .map [("module", .text "counter")]),
    ("algorithm", .map [("population", population), ("generations", .int 1)])]

def config (population : Quantity) : Config :=
  ⟨"/work/patches", ⟨"/work", "counter", "test_counter.py", "python", .number (.float 10.0)⟩,
    { SearchSettings.defaults with populationSize := population, numGenerations := .ofInt 1 },
    ⟨.classic false, .raw, .ochiai, ⟨.number (.float 1.0), .number (.float 10.0)⟩⟩, .ofInt 0⟩

def seed : Candidate Quantity :=
  ⟨"counter", ["x = 1"], ⟨"test_counter.py", [], [⟨"test_counter.py", none, "test_x"⟩]⟩,
    (config default).strategies, 0⟩

def lab : Lab Simulation Counter :=
  ⟨.new ⟨⟨[], []⟩, ⟨[], []⟩, [], [("test_counter.py::test_x", ⟨["x = 2"], [], [], []⟩)]⟩,
    #[.empty], none, ⟨0⟩⟩

/-- The document is accepted, and the search fails for want of an integer. -/
theorem search_fails :
    Config.ofValue here (some "/work") {} (document (.float 2.5)) =
        .ok (config (.number (.float 2.5))) ∧
      failure? ((Search.search (config (.number (.float 2.5))).search seed).run.run (.new lab)).1 =
        some .fractionalCount := by
  constructor
  · rfl
  · decide +kernel

/-- With three in its place the search has no want of an integer, whatever the toolchain. -/
theorem search_of_three :
    Config.ofValue here (some "/work") {} (document (.int 3)) = .ok (config (.ofInt 3)) ∧
      ∀ (T : Type) [Toolchain T] [Stepwise T] (schedules : Int → List Nat),
        Counts (Search.searchInPool schedules (config (.ofInt 3)).search seed :
          Searching Quantity T Counter (SearchResult Quantity)) fun _ => True := by
  have hread : Config.ofValue here (some "/work") (.ofIntegers none none none none none)
      (document (.int 3)) = .ok (config (.ofInt 3)) := rfl
  have haccepted := Config.ofValue_accepted here (some "/work") none none none none none
    (document (.int 3))
  rw [hread] at haccepted
  obtain ⟨-, hruns⟩ := haccepted
  have hfits : ∀ k ∈ CountSetting.all, k.Fits (config (.ofInt 3)).search :=
    CountSetting.forall_mem_all.mpr
      ⟨⟨3, rfl, by decide⟩, ⟨1, rfl, by decide⟩, ⟨100, rfl, by decide⟩⟩
  refine ⟨hread, fun T _ _ schedules => ?_⟩
  exact hruns.searches hfits T Counter schedules seed rfl

end Fractional

end GeneticRepair
