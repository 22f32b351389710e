import GeneticRepair.Config.Basic
import GeneticRepair.Proofs.Collection.Entries
import GeneticRepair.Proofs.Config.Property

/-!
# Configurations are checked

A document either gives a configuration that passes every check, or it is refused: as a
misconfiguration, or by one of three failures that are reported as something else. Each of these has
a cause in the document. A setting of the search that is only compared may be no number, a number
may be beyond all floats, and the name of an algorithm may be an integer that is too long to be
shown.
-/

namespace GeneticRepair

/-! ## What is checked -/

structure ProgramConfig.Checked (p : ProgramConfig) : Prop where
  directory : Path.isAbsolute p.directory = true
  module : Text.isIdentifier p.module = true
  timeLimit : Scalar.atMost p.timeLimit (.ofInt 0) = false

structure SearchSettings.Checked (s : SearchSettings Quantity) : Prop where
  population : Scalar.less s.populationSize (.ofInt 1) = false
  generations : Scalar.less s.numGenerations (.ofInt 0) = false
  mutationRate : (Scalar.atMost Scalar.origin s.rateMutation &&
    Scalar.atMost s.rateMutation (.ofInt 1)) = true
  mutationAttempts : Scalar.less s.maxMutationAttempts (.ofInt 1) = false

structure Weights.Checked (w : Weights Quantity) : Prop where
  positive : Scalar.less w.positive Scalar.zero = false
  negative : Scalar.less w.negative Scalar.zero = false

def Crossover.Checked : Crossover → Prop
  | raw => True
  | structural attempts => Scalar.less attempts (.ofInt 1) = false

structure Config.Checked (c : Config) : Prop where
  patches : Path.isAbsolute c.patches = true
  program : c.program.Checked
  search : c.search.Checked
  weights : c.strategies.weights.Checked
  crossover : c.strategies.crossover.Checked
  seed : Scalar.less c.seed (.ofInt 0) = false
  threads : Scalar.less c.search.threads (.ofInt 1) = false

/-! ## Why a document is refused -/

namespace Overrides

/-- Overrides by integers, and by a path for the outcomes. -/
def ofIntegers (seed threads generations population : Option Int) (patches : Option String) :
    Overrides where
  seed := seed.map .int
  threads := threads.map .int
  patches := patches.map .text
  generations := generations.map .int
  population := population.map .int

def setting? (o : Overrides) : String → Option Value
  | "generations" => o.generations
  | "population" => o.population
  | _ => none

variable {seed threads generations population : Option Int} {patches : Option String}
  {name : String} {w : Value}

theorem setting?_ofIntegers
    (h : (ofIntegers seed threads generations population patches).setting? name = some w) :
    ∃ n, w = .int n := by
  unfold setting? at h
  split at h
  · obtain ⟨n, -, rfl⟩ := Option.map_eq_some_iff.mp h
    exact ⟨n, rfl⟩
  · obtain ⟨n, -, rfl⟩ := Option.map_eq_some_iff.mp h
    exact ⟨n, rfl⟩
  · cases h

private theorem quantity?_ofIntegers
    (h : (ofIntegers seed threads generations population patches).setting? name = some w) :
    w.quantity? ≠ none := by
  obtain ⟨n, rfl⟩ := setting?_ofIntegers h
  exact Option.some_ne_none _

end Overrides

namespace Config

/-- The settings of a search that are only compared with numbers. -/
def comparedSettings : List String :=
  ["population", "generations", "mutation-rate", "mutation-attempts"]

/-- The numbers that have to be floats: their sections, their names and their defaults. -/
def floatProperties : List (String × String × Int) :=
  [("program", "time-limit", 10), ("fitness", "positive-weight", 1),
    ("fitness", "negative-weight", 10)]

/-- What is behind the refusal of a document. -/
inductive Caused (o : Overrides) (v : Value) : ConfigError → Prop
  | misconfigured (m : Misconfiguration) : Caused o v (.misconfigured m)
  /-- A setting of the search that is not overridden is no number. -/
  | incomparable {name : String} {w : Value} (compared : name ∈ comparedSettings)
      (free : o.setting? name = none) (given : given? v "algorithm" name = some w)
      (noNumber : w.quantity? = none) : Caused o v .incomparable
  /-- The value or the default of a property is no float. -/
  | outOfRange {sectionName name : String} {default n : Int}
      (float : (sectionName, name, default) ∈ floatProperties)
      (used : (given? v sectionName name).getD (.int default) = .int n)
      (beyond : Number.floatOfInt n = .error .overflow) : Caused o v .outOfRange
  /-- What should be the name of an algorithm holds an integer that is too long to be shown. -/
  | tooManyDigits {w : Value} (given : given? v "algorithm" "type" = some w)
      (long : w.holdsLongInteger = true) : Caused o v .tooManyDigits

/-! ## Sections -/

section Sections

variable {failure : ConfigError → Prop} (reported : ∀ m, failure (.misconfigured m))
  {here : Surroundings} {directory : Option String} {v : Value}

include reported

private theorem meets_resolve {name path : String} :
    Meets (fun _ => True) failure (resolve directory name path) := by
  rw [resolve]
  split
  · exact trivial
  · split
    · exact trivial
    · exact meets_refuse reported

private theorem meets_patchesOf {given : Option String} :
    Meets (fun _ => True) failure (patchesOf here directory (given.map .text) v) := by
  unfold patchesOf
  cases given with
  | some path =>
    simp only [Option.map_some, pure_bind]
    generalize Path.absolute here.workingDirectory path = path
    exact meets_resolve reported
  | none =>
    apply (meets_text reported).bind
    intro path _
    exact meets_resolve reported

theorem meets_programOf
    (hrange : ∀ n, property v "time-limit" (.int 10) = .int n →
      Number.floatOfInt n = .error .overflow → failure .outOfRange) :
    Meets ProgramConfig.Checked failure (programOf here directory v) := by
  rw [programOf]
  split
  case h_2 => exact meets_refuse reported
  apply (meets_text reported).bind
  intro module _
  apply (meets_text reported).bind
  intro path _
  apply (meets_resolve reported).bind
  intro path _
  apply (meets_text reported).bind
  intro tests _
  apply (meets_text reported).bind
  intro interpreter _
  apply (meets_float reported hrange).bind
  intro timeLimit _
  apply (meets_require reported).bind
  intro _ hpath
  apply (meets_require reported).bind
  intro _ hname
  apply (meets_require reported).bind
  intro _ hlimit
  exact ⟨hpath, hname, by simpa using hlimit⟩

private theorem meets_requireAlgorithm {kind : Value}
    (hlong : kind.holdsLongInteger = true → failure .tooManyDigits) :
    Meets (fun _ => kind = .text algorithm) failure (requireAlgorithm kind) := by
  unfold requireAlgorithm
  split
  · apply (meets_require reported).mono _ fun _ he => he
    intro _ hs
    simpa [algorithms] using hs
  · apply (meets_shown hlong).bind
    intro s _
    exact meets_refuse reported

theorem meets_searchOf
    (hcompare : ∀ name ∈ comparedSettings, ∀ w, v.get? name = some w → w.quantity? = none →
      failure .incomparable)
    (hlong : ∀ w, v.get? "type" = some w → w.holdsLongInteger = true → failure .tooManyDigits) :
    Meets SearchSettings.Checked failure (searchOf v) := by
  have hkind : (property v "type" (.text algorithm)).holdsLongInteger = true →
      failure .tooManyDigits := by
    intro h
    obtain ⟨w, hget, hw⟩ := given_of_property (P := (Value.holdsLongInteger · = true)) h (by simp)
    exact hlong w hget hw
  have hsetting : ∀ name ∈ comparedSettings, ∀ q : Quantity,
      (property v name (.ofQuantity q)).quantity? = none → failure .incomparable := by
    intro name hname q hq
    obtain ⟨w, hget, hw⟩ := given_of_property (P := (Value.quantity? · = none)) hq (by simp)
    exact hcompare name hname w hget hw
  unfold searchOf
  apply (meets_requireAlgorithm reported hkind).bind
  intro _ _
  apply (meets_atLeast reported (hsetting "population" (by decide) _)).bind
  intro population hpopulation
  apply (meets_atLeast reported (hsetting "generations" (by decide) _)).bind
  intro generations hgenerations
  apply (meets_comparable (hsetting "mutation-rate" (by decide) _)).bind
  intro rate _
  apply (meets_require reported).bind
  intro _ hrate
  apply (meets_atLeast reported (hsetting "mutation-attempts" (by decide) _)).bind
  intro attempts hattempts
  exact ⟨hpopulation.2, hgenerations.2, hrate, hattempts.2⟩

theorem meets_weightsOf
    (hpositive : ∀ n, property v "positive-weight" (.int 1) = .int n →
      Number.floatOfInt n = .error .overflow → failure .outOfRange)
    (hnegative : ∀ n, property v "negative-weight" (.int 10) = .int n →
      Number.floatOfInt n = .error .overflow → failure .outOfRange) :
    Meets Weights.Checked failure (weightsOf v) := by
  unfold weightsOf
  apply (meets_float reported hpositive).bind
  intro positive _
  apply (meets_float reported hnegative).bind
  intro negative _
  rw [Weights.new]
  split
  · next w hw =>
    split at hw
    · cases hw
    · next hnot =>
      cases hw
      simp only [Bool.or_eq_true, not_or, Bool.not_eq_true] at hnot
      exact ⟨hnot.1, hnot.2⟩
  · exact meets_refuse reported

private theorem meets_metricOf : Meets (fun _ => True) failure (metricOf v) := by
  unfold metricOf
  apply (meets_text reported).bind
  intro name _
  split
  · exact trivial
  · exact meets_refuse reported

private theorem meets_mutatorOf : Meets (fun _ => True) failure (mutatorOf v) := by
  unfold mutatorOf
  apply (meets_text reported).bind
  intro type _
  apply (meets_truth reported).bind
  intro crossScope _
  split
  · exact trivial
  · exact meets_refuse reported

theorem meets_crossoverOf : Meets Crossover.Checked failure (crossoverOf v) := by
  unfold crossoverOf
  apply (meets_text reported).bind
  intro type _
  apply (meets_count reported).bind
  intro attempts _
  apply (meets_require reported).bind
  intro _ _
  apply (meets_require reported).bind
  intro _ hattempts
  split
  · exact trivial
  · have hleast : Scalar.less attempts (.ofInt 1) = false := by simpa using hattempts
    exact hleast

theorem meets_integerOf {given : Option Int} {name : String} {default : Int} :
    Meets (fun w => ∃ n, w = .int n) failure (integerOf (given.map .int) v name default) := by
  cases given with
  | some n => exact ⟨n, rfl⟩
  | none =>
    apply (meets_integer reported).bind
    intro n _
    exact ⟨n, rfl⟩

end Sections

/-! ## Overrides -/

variable {o : Overrides} {v : Value} {name : String}

private theorem get?_overrideIn {key : String} {given : Option Value} (hv : v.isMap = true) :
    (overrideIn key given v).get? name =
      if name = key then given.or (v.get? name) else v.get? name := by
  cases v with
  | map entries =>
    cases given with
    | none => simp [overrideIn, Value.get?]
    | some w =>
      split
      · next h => simp [overrideIn, Value.get?, h, Entries.lookup_set_self]
      · next h => simp [overrideIn, Value.get?, Entries.lookup_set_of_ne h]
  | _ => cases hv

private theorem isMap_overrideIn {key : String} {given : Option Value} (hv : v.isMap = true) :
    (overrideIn key given v).isMap = true := by
  cases v with
  | map entries => rfl
  | _ => cases hv

theorem get?_overridden (hv : v.isMap = true) :
    (overrideIn "population" o.population (overrideIn "generations" o.generations v)).get? name =
      (o.setting? name).or (v.get? name) := by
  rw [get?_overrideIn (isMap_overrideIn hv), get?_overrideIn hv]
  by_cases hpopulation : name = "population"
  · subst hpopulation
    simp [Overrides.setting?]
  · by_cases hgenerations : name = "generations"
    · subst hgenerations
      simp [Overrides.setting?]
    · simp [Overrides.setting?, hpopulation, hgenerations]

private theorem Caused.of_float {s : Value} {sectionName : String} {default : Int}
    (hs : ∀ p, s.get? p = given? v sectionName p)
    (hfloat : (sectionName, name, default) ∈ floatProperties) :
    ∀ n, property s name (.int default) = .int n → Number.floatOfInt n = .error .overflow →
      Caused o v .outOfRange := by
  intro n hn hbeyond
  rw [property, hs] at hn
  exact .outOfRange hfloat hn hbeyond

/-! ## Documents -/

private theorem meets_searchOf_overridden {a : Value} (ha : a.isMap = true)
    (hgiven : ∀ p, a.get? p = given? v "algorithm" p)
    (ho : ∀ name w, o.setting? name = some w → w.quantity? ≠ none) :
    Meets SearchSettings.Checked (Caused o v) (searchOf
      (overrideIn "population" o.population (overrideIn "generations" o.generations a))) := by
  apply meets_searchOf Caused.misconfigured
  · intro name hname w hw hquantity
    rw [get?_overridden ha, hgiven] at hw
    cases hfree : o.setting? name with
    | none =>
      rw [hfree] at hw
      exact .incomparable hname hfree hw hquantity
    | some w' =>
      rw [hfree] at hw
      cases hw
      exact absurd hquantity (ho name w hfree)
  · intro w hw hlong
    rw [get?_overridden ha, hgiven] at hw
    exact .tooManyDigits hw hlong

/-- Whatever the document, reading it ends in a configuration that passes every check, or in a
refusal with one of the named causes; none of them is an override. -/
theorem ofValue_checked (here : Surroundings) (directory : Option String)
    (seed threads generations population : Option Int) (patches : Option String) (v : Value) :
    Meets Checked (Caused (.ofIntegers seed threads generations population patches) v)
      (ofValue here directory (.ofIntegers seed threads generations population patches) v) := by
  have reported : ∀ m, Caused (.ofIntegers seed threads generations population patches) v
    (.misconfigured m) := .misconfigured
  unfold ofValue
  apply (meets_require reported).bind
  intro _ _
  apply (meets_require reported).bind
  intro _ _
  apply (meets_patchesOf reported).bind
  intro patches' _
  apply (meets_sectionOf reported).bind
  intro algorithm ⟨halgorithm, hsettings⟩
  apply meets_section_bind reported fun s hs =>
    meets_programOf reported (.of_float hs (by decide))
  intro program hprogram
  apply (meets_searchOf_overridden halgorithm hsettings
    fun _ _ => Overrides.quantity?_ofIntegers).bind
  intro search hsearch
  apply meets_section_bind reported fun s hs =>
    meets_weightsOf reported (.of_float hs (by decide)) (.of_float hs (by decide))
  intro weights hweights
  apply meets_section_bind reported fun _ _ => meets_metricOf reported
  intro metric _
  apply meets_section_bind reported fun _ _ => meets_mutatorOf reported
  intro mutator _
  apply meets_section_bind reported fun _ _ => meets_crossoverOf reported
  intro crossover hcrossover
  apply (meets_integerOf reported).bind
  intro seed' ⟨n, hn⟩
  apply (meets_integerOf reported).bind
  intro threads' ⟨m, hm⟩
  apply (meets_require reported).bind
  intro _ hpatches
  subst hn hm
  apply (meets_atLeast reported fun h => by cases h).bind
  intro seed' hseed
  apply (meets_atLeast reported fun h => by cases h).bind
  intro threads' hthreads
  exact ⟨hpatches, hprogram, ⟨hsearch.1, hsearch.2, hsearch.3, hsearch.4⟩, hweights, hcrossover,
    hseed.2, hthreads.2⟩

example : searchOf (.map [("population", .text "abc")]) = .error .incomparable := by
  rfl

end Config

end GeneticRepair
