import GeneticRepair.Coverage.Spectra
import GeneticRepair.Proofs.Collection.Entries
import GeneticRepair.Proofs.Collection.Sorted
import Mathlib.Data.List.Count

/-!
# Counts of tests

The row of a line tells how many passing and how many failing tests executed it, and how many did
not. The members of the spectra are the lines that some test executed.
-/

namespace GeneticRepair

variable {N L : Type}

namespace CoverageMap

variable {m : CoverageMap N L}

private theorem tests_restrict (keep : TestCoverage N L → Bool) :
    (m.restrict keep).tests = m.tests.filter keep := by
  rw [tests, tests, restrict, List.filter_map]
  rfl

private theorem size_restrict (keep : TestCoverage N L → Bool) :
    (m.restrict keep).size = m.tests.countP keep := by
  rw [List.countP_eq_length_filter, ← tests_restrict, tests, List.length_map]
  rfl

/-- The lines of every test are in ascending order, each once. -/
def Ascending [LT L] (m : CoverageMap N L) : Prop :=
  ∀ c ∈ m.tests, c.lines.Pairwise (· < ·)

instance [LT L] [DecidableLT L] : Decidable m.Ascending :=
  inferInstanceAs (Decidable (∀ c ∈ m.tests, c.lines.Pairwise (· < ·)))

/-- How many of the tests with a verdict executed a line. -/
def executions [BEq L] (m : CoverageMap N L) (verdict : Bool) (line : L) : Nat :=
  m.tests.countP fun c => c.successful == verdict && c.contains line

/-- Some test with a verdict executed the line. -/
def Executed (m : CoverageMap N L) (verdict : Bool) (line : L) : Prop :=
  ∃ c ∈ m.tests, c.successful = verdict ∧ line ∈ c.lines

instance [DecidableEq L] (verdict : Bool) (line : L) : Decidable (m.Executed verdict line) :=
  inferInstanceAs (Decidable (∃ c ∈ m.tests, c.successful = verdict ∧ line ∈ c.lines))

section

variable [LT N] [DecidableLT N] [LT L] [DecidableLT L] [Std.Irrefl (α := L) (· < ·)]
  [Std.Trichotomous (α := L) (· < ·)] [IsTrans L (· < ·)]

theorem ascending_ofList (records : List (N × TestOutcome × List L)) :
    (ofList (records.map fun (test, outcome, lines) => .make test outcome lines)).Ascending := by
  intro c hc
  have hmem := Sorted.value_mem_ofEntries hc
  simp only [List.map_map, List.mem_map, Function.comp_apply] at hmem
  obtain ⟨record, -, rfl⟩ := hmem
  exact Sorted.pairwise_ofList _

end

end CoverageMap

namespace Spectra

variable [BEq L] [LawfulBEq L] {line : L}

/-! ## Tallies -/

private theorem lookup_count (line other : L) (known : List (L × Int)) :
    ((count line known).lookup other).getD 0 =
      (known.lookup other).getD 0 + if line == other then 1 else 0 := by
  by_cases h : line = other
  · subst h
    simp [count, Entries.lookup_set_self]
  · simp [count, Entries.lookup_set_of_ne (Ne.symm h), h]

private theorem lookup_foldl_count (lines : List L) (known : List (L × Int)) :
    ((lines.foldl (fun known line => count line known) known).lookup line).getD 0 =
      (known.lookup line).getD 0 + lines.count line := by
  induction lines generalizing known with
  | nil => simp
  | cons other lines ih =>
    rw [List.foldl_cons, ih, lookup_count, List.count_cons]
    split <;> push_cast <;> omega

private theorem mem_keys_foldl_count (lines : List L) (known : List (L × Int)) :
    line ∈ (lines.foldl (fun known line => count line known) known).map Prod.fst ↔
      line ∈ lines ∨ line ∈ known.map Prod.fst := by
  induction lines generalizing known with
  | nil => simp
  | cons other lines ih =>
    rw [List.foldl_cons, ih, count, Entries.mem_keys_set_iff, List.mem_cons]
    tauto

private theorem count_flatMap_lines {tests : List (TestCoverage N L)}
    (h : ∀ c ∈ tests, c.lines.Nodup) :
    (tests.flatMap TestCoverage.lines).count line = tests.countP (·.contains line) := by
  induction tests with
  | nil => rfl
  | cons c tests ih =>
    obtain ⟨hc, htests⟩ := List.forall_mem_cons.mp h
    rw [List.flatMap_cons, List.count_append, List.countP_cons, ih htests, Nat.add_comm, hc.count]
    simp [TestCoverage.contains]

private theorem lookup_tally {tests : List (TestCoverage N L)} (h : ∀ c ∈ tests, c.lines.Nodup) :
    ((tally tests).lookup line).getD 0 = (tests.countP (·.contains line) : Nat) := by
  rw [tally, lookup_foldl_count, count_flatMap_lines h]
  simp

private theorem mem_keys_tally {tests : List (TestCoverage N L)} :
    line ∈ (tally tests).map Prod.fst ↔ ∃ c ∈ tests, line ∈ c.lines := by
  rw [tally, mem_keys_foldl_count, List.mem_flatMap]
  simp

end Spectra

/-! ## Rows -/

/-- The row tells how many tests of the map, passing and failing, did and did not execute the
line. -/
structure SpectrumRow.Counts [BEq L] (r : SpectrumRow) (m : CoverageMap N L) (line : L) : Prop where
  ep : r.ep = m.executions true line
  ef : r.ef = m.executions false line
  passing : r.ep + r.np = (m.tests.countP TestCoverage.successful : Nat)
  failing : r.ef + r.nf = (m.tests.countP (!·.successful) : Nat)
  nonneg : ∀ n ∈ r.toList, 0 ≤ n

namespace CoverageMap

variable [BEq L] {m : CoverageMap N L} {line : L}

private theorem countP_passing (line : L) :
    m.passing.tests.countP (·.contains line) = m.executions true line := by
  rw [passing, tests_restrict, List.countP_filter, executions]
  exact congrArg m.tests.countP (funext fun c => by simp [Bool.and_comm])

private theorem countP_failing (line : L) :
    m.failing.tests.countP (·.contains line) = m.executions false line := by
  rw [failing, tests_restrict, List.countP_filter, executions]
  exact congrArg m.tests.countP (funext fun c => by cases c.successful <;> simp)

private theorem executions_true_le (line : L) :
    m.executions true line ≤ m.tests.countP TestCoverage.successful := by
  refine List.countP_mono_left fun c _ h => ?_
  rw [Bool.and_eq_true, beq_iff_eq] at h
  exact h.1

private theorem executions_false_le (line : L) :
    m.executions false line ≤ m.tests.countP (!·.successful) := by
  refine List.countP_mono_left fun c _ h => ?_
  rw [Bool.and_eq_true, beq_iff_eq] at h
  rw [h.1, Bool.not_false]

theorem executions_pos_iff [LawfulBEq L] {verdict : Bool} :
    0 < m.executions verdict line ↔ m.Executed verdict line := by
  simp [executions, Executed, TestCoverage.contains]

end CoverageMap

namespace Spectra

section

variable [BEq L] [LawfulBEq L] {m : CoverageMap N L}

theorem counts_row (h : ∀ c ∈ m.tests, c.lines.Nodup) (line : L) :
    ((ofCoverage m).row line).Counts m line := by
  have hrestrict (keep : TestCoverage N L → Bool) :
      ∀ c ∈ (m.restrict keep).tests, c.lines.Nodup := by
    rw [m.tests_restrict]
    exact fun c hc => h c (List.mem_of_mem_filter hc)
  have hep : ((ofCoverage m).row line).ep = m.executions true line := by
    rw [← CoverageMap.countP_passing]
    exact lookup_tally (hrestrict _)
  have hef : ((ofCoverage m).row line).ef = m.executions false line := by
    rw [← CoverageMap.countP_failing]
    exact lookup_tally (hrestrict _)
  have hnp : ((ofCoverage m).row line).np =
      (m.tests.countP TestCoverage.successful : Nat) - ((ofCoverage m).row line).ep := by
    rw [← CoverageMap.size_restrict]
    rfl
  have hnf : ((ofCoverage m).row line).nf =
      (m.tests.countP (!·.successful) : Nat) - ((ofCoverage m).row line).ef := by
    rw [← CoverageMap.size_restrict]
    rfl
  have hpassing := m.executions_true_le line
  have hfailing := m.executions_false_le line
  refine ⟨hep, hef, by omega, by omega, fun n hn => ?_⟩
  simp only [SpectrumRow.toList, List.mem_cons, List.not_mem_nil, or_false] at hn
  omega

end

section

variable [LT L] [DecidableLT L] [Std.Irrefl (α := L) (· < ·)] [Std.Trichotomous (α := L) (· < ·)]
  [IsTrans L (· < ·)] [BEq L] [LawfulBEq L] {m : CoverageMap N L} {line : L}

omit [IsTrans L (· < ·)] in
theorem mem_lines_iff :
    line ∈ (ofCoverage m).lines ↔ ∃ c ∈ m.tests, line ∈ c.lines := by
  have hpassing : line ∈ (ofCoverage m).tallyPassing.map Prod.fst ↔
      ∃ c ∈ m.passing.tests, line ∈ c.lines := mem_keys_tally
  have hfailing : line ∈ (ofCoverage m).tallyFailing.map Prod.fst ↔
      ∃ c ∈ m.failing.tests, line ∈ c.lines := mem_keys_tally
  rw [lines, Sorted.mem_ofList, List.mem_append, hpassing, hfailing, CoverageMap.passing,
    CoverageMap.failing, CoverageMap.tests_restrict, CoverageMap.tests_restrict]
  simp only [List.mem_filter, Bool.not_eq_true']
  constructor
  · rintro (⟨c, ⟨hc, -⟩, hline⟩ | ⟨c, ⟨hc, -⟩, hline⟩) <;> exact ⟨c, hc, hline⟩
  · rintro ⟨c, hc, hline⟩
    cases hverdict : c.successful
    · exact .inr ⟨c, ⟨hc, hverdict⟩, hline⟩
    · exact .inl ⟨c, ⟨hc, hverdict⟩, hline⟩

omit [BEq L] [LawfulBEq L] in
theorem pairwise_lines {C : Type} (s : Spectra C L) : s.lines.Pairwise (· < ·) :=
  Sorted.pairwise_ofList _

end

end Spectra

end GeneticRepair
