import GeneticRepair.Coverage.Map
import GeneticRepair.Proofs.Action
import GeneticRepair.Proofs.Collection.Sorted
import GeneticRepair.Toolchain.Basic
import Mathlib.Data.List.Nodup
import Mathlib.Data.List.Perm.Subperm

/-!
# Coherent toolchains

A toolchain is coherent for a suite if what it answers depends on the program alone, if it never
fails to answer, if a test run says of the build what a compilation says, and if it reports every
test of the suite once. Its answers then decide which programs are repairs.

A test run covers a suite if it reports each of its tests once, and no others. The tests that it
passed and those that it failed then share out the suite, and comparing two such runs comes down to
counting.
-/

namespace GeneticRepair

/-! ## Names in coverage maps -/

namespace CoverageMap

variable {N L : Type} {m : CoverageMap N L}

private theorem names_restrict_sublist (keep : TestCoverage N L → Bool) :
    (m.restrict keep).names.Sublist m.names :=
  (List.filter_sublist (l := m.entries)).map Prod.fst

theorem length_passing_add_length_failing :
    m.passing.names.length + m.failing.names.length = m.names.length := by
  simp only [names, passing, failing, restrict, List.length_map]
  exact (List.length_eq_length_filter_add fun e : N × TestCoverage N L => e.2.successful).symm

private theorem length_passing_eq_length_names_iff (hnodup : m.names.Nodup) :
    m.passing.names.length = m.names.length ↔ ∀ name ∈ m.names, name ∈ m.passing.names := by
  have hsub := m.names_restrict_sublist TestCoverage.successful
  constructor
  · intro h name hname
    rwa [passing, hsub.eq_of_length h]
  · intro h
    exact Nat.le_antisymm hsub.length_le (hnodup.subperm h).length_le

section Ordered

variable [LT N] [DecidableLT N] [Std.Irrefl (α := N) (· < ·)] [Std.Trichotomous (α := N) (· < ·)]
  [IsTrans N (· < ·)]

theorem nodup_names_ofList (cs : List (TestCoverage N L)) : (ofList cs).names.Nodup := by
  refine (Sorted.pairwise_keys_ofEntries _).imp ?_
  rintro name other hlt rfl
  exact Std.Irrefl.irrefl name hlt

omit [Std.Irrefl (α := N) (· < ·)] [IsTrans N (· < ·)] in
theorem mem_names_ofList {cs : List (TestCoverage N L)} {name : N} :
    name ∈ (ofList cs).names ↔ name ∈ cs.map TestCoverage.test := by
  rw [names, ofList, Sorted.mem_keys_ofEntries, List.map_map]
  rfl

end Ordered

end CoverageMap

/-! ## Runs that cover a suite -/

private theorem length_filter_contains_le {xs ys : List String} (hxs : xs.Nodup) :
    (xs.filter ys.contains).length ≤ ys.length := by
  apply List.Subperm.length_le
  apply (hxs.filter _).subperm
  intro x hx
  simpa using (List.mem_filter.mp hx).2

private theorem length_filter_contains_eq_iff {xs ys : List String} (hxs : xs.Nodup)
    (hys : ys.Nodup) : (xs.filter ys.contains).length = ys.length ↔ ys ⊆ xs := by
  have hsub : xs.filter ys.contains ⊆ ys := by
    intro x hx
    simpa using (List.mem_filter.mp hx).2
  constructor
  · intro h y hy
    have hperm := ((hxs.filter _).subperm hsub).perm_of_length_le (Nat.le_of_eq h.symm)
    exact List.mem_of_mem_filter (hperm.mem_iff.mpr hy)
  · intro h
    apply Nat.le_antisymm (length_filter_contains_le hxs)
    apply (hys.subperm _).length_le
    intro y hy
    simp [h hy, hy]

namespace TestRun

/-- Each test of the suite is reported once. -/
structure Covers (r : TestRun) (suite : TestSuite) : Prop where
  nodup_names : r.coverage.names.Nodup
  mem_names : ∀ name, name ∈ r.coverage.names ↔ name ∈ suite.names

def gains (r : TestRun) (names : List String) : Nat :=
  (r.passing.filter names.contains).length

variable {suite : TestSuite} {r r' base : TestRun}

private theorem passing_sublist : r.passing.Sublist r.coverage.names :=
  CoverageMap.names_restrict_sublist _

private theorem failing_sublist : r.failing.Sublist r.coverage.names :=
  CoverageMap.names_restrict_sublist _

private theorem length_passing_add_length_failing :
    r.passing.length + r.failing.length = r.coverage.names.length :=
  CoverageMap.length_passing_add_length_failing

namespace Covers

private theorem nodup_passing (h : r.Covers suite) : r.passing.Nodup :=
  passing_sublist.nodup h.nodup_names

private theorem nodup_failing (h : r.Covers suite) : r.failing.Nodup :=
  failing_sublist.nodup h.nodup_names

theorem mem_suite_of_mem_passing (h : r.Covers suite) {name : String} (hname : name ∈ r.passing) :
    name ∈ suite.names :=
  (h.mem_names name).mp (passing_sublist.subset hname)

private theorem mem_suite_of_mem_failing (h : r.Covers suite) {name : String}
    (hname : name ∈ r.failing) :
    name ∈ suite.names :=
  (h.mem_names name).mp (failing_sublist.subset hname)

private theorem mem_passing_or_mem_failing (h : r.Covers suite) {name : String}
    (hname : name ∈ suite.names) : name ∈ r.passing ∨ name ∈ r.failing := by
  obtain ⟨e, he, rfl⟩ := List.mem_map.mp ((h.mem_names name).mpr hname)
  by_cases hsuccess : e.2.successful = true
  · exact .inl (List.mem_map.mpr ⟨e, List.mem_filter.mpr ⟨he, hsuccess⟩, rfl⟩)
  · exact .inr (List.mem_map.mpr ⟨e, List.mem_filter.mpr ⟨he, by simpa using hsuccess⟩, rfl⟩)

private theorem length_names_le (h : r.Covers suite) :
    r.coverage.names.length ≤ suite.names.length := by
  apply (h.nodup_names.subperm _).length_le
  intro name hname
  exact (h.mem_names name).mp hname

private theorem length_names_eq (h : r.Covers suite) (h' : r'.Covers suite) :
    r.coverage.names.length = r'.coverage.names.length := by
  apply List.Perm.length_eq
  rw [List.perm_ext_iff_of_nodup h.nodup_names h'.nodup_names]
  intro name
  rw [h.mem_names, h'.mem_names]

theorem length_passing_eq_iff (h : r.Covers suite) (hbase : base.Covers suite) :
    r.passing.length = base.passing.length + base.failing.length ↔
      ∀ name ∈ suite.names, name ∈ r.passing := by
  rw [length_passing_add_length_failing, hbase.length_names_eq h]
  apply (CoverageMap.length_passing_eq_length_names_iff h.nodup_names).trans
  constructor
  · intro hall name hname
    exact hall name ((h.mem_names name).mpr hname)
  · intro hall name hname
    exact hall name ((h.mem_names name).mp hname)

theorem gains_le (h : r.Covers suite) (names : List String) : r.gains names ≤ names.length :=
  length_filter_contains_le h.nodup_passing

private theorem gains_eq_iff (h : r.Covers suite) {names : List String} (hnames : names.Nodup) :
    r.gains names = names.length ↔ names ⊆ r.passing :=
  length_filter_contains_eq_iff h.nodup_passing hnames

theorem gains_mono (h : r.Covers suite) (hsub : r.passing ⊆ r'.passing) (names : List String) :
    r.gains names ≤ r'.gains names := by
  apply ((h.nodup_passing.filter _).subperm _).length_le
  intro name hname
  obtain ⟨hpass, hmem⟩ := List.mem_filter.mp hname
  exact List.mem_filter.mpr ⟨hsub hpass, hmem⟩

theorem gains_add_gains_le (h : r.Covers suite) (hbase : base.Covers suite) :
    r.gains base.passing + r.gains base.failing ≤ suite.names.length := by
  have hkept := h.gains_le base.passing
  have hgained := h.gains_le base.failing
  have hsum := length_passing_add_length_failing (r := base)
  have hle := hbase.length_names_le
  omega

/-- All gains are made just by passing the whole suite. -/
theorem gains_eq_and_gains_eq_iff (h : r.Covers suite) (hbase : base.Covers suite) :
    r.gains base.passing = base.passing.length ∧ r.gains base.failing = base.failing.length ↔
      ∀ name ∈ suite.names, name ∈ r.passing := by
  rw [h.gains_eq_iff hbase.nodup_passing, h.gains_eq_iff hbase.nodup_failing]
  constructor
  · intro ⟨hkept, hgained⟩ name hname
    cases hbase.mem_passing_or_mem_failing hname with
    | inl hpass => exact hkept hpass
    | inr hfail => exact hgained hfail
  · intro hall
    constructor
    · intro name hname
      exact hall name (hbase.mem_suite_of_mem_passing hname)
    · intro name hname
      exact hall name (hbase.mem_suite_of_mem_failing hname)

end Covers

end TestRun

/-! ## Coherence -/

structure Coherence (T : Type) [Toolchain T] (suite : TestSuite) where
  /-- The states in which the toolchain gives these answers, and which it does not leave. -/
  valid : T → Prop
  build : Program → BuildOutcome
  testRun : Program → TestRun
  compile_returns : ∀ p t, valid t →
    ∃ t', valid t' ∧ Returns (Toolchain.compile p) t (build p) t'
  runTests_returns : ∀ p t, valid t →
    ∃ t', valid t' ∧ Returns (Toolchain.runTests p suite) t (testRun p) t'
  compiled_testRun : ∀ p, (testRun p).compiled = (build p).successful
  nodup_names : ∀ p, (testRun p).compiled → (testRun p).coverage.names.Nodup
  mem_names : ∀ p, (testRun p).compiled →
    ∀ name, name ∈ (testRun p).coverage.names ↔ name ∈ suite.names

namespace Coherence

variable {T : Type} [Toolchain T] {suite : TestSuite} (k : Coherence T suite)

def compiles (p : Program) : Bool :=
  (k.build p).successful

def passing (p : Program) : List String :=
  (k.testRun p).passing

def failing (p : Program) : List String :=
  (k.testRun p).failing

/-- The program compiles and passes every test of the suite. -/
def Repairs (p : Program) : Prop :=
  k.compiles p ∧ ∀ name ∈ suite.names, name ∈ k.passing p

variable {k} {p q : Program}

private theorem compiled_of_compiles (h : k.compiles p) : (k.testRun p).compiled :=
  (k.compiled_testRun p).trans h

theorem covers_testRun (h : k.compiles p) : (k.testRun p).Covers suite :=
  ⟨k.nodup_names p (compiled_of_compiles h), k.mem_names p (compiled_of_compiles h)⟩

/-- Passing as many tests as any compiling program passes and fails is passing them all. -/
theorem length_passing_eq_iff (hp : k.compiles p) (hq : k.compiles q) :
    (k.passing q).length = (k.passing p).length + (k.failing p).length ↔ k.Repairs q := by
  apply ((covers_testRun hq).length_passing_eq_iff (covers_testRun hp)).trans
  exact ⟨fun h => ⟨hq, h⟩, fun h => h.2⟩

end Coherence

end GeneticRepair
