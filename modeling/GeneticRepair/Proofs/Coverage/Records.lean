import GeneticRepair.Document.Key
import GeneticRepair.Proofs.Coverage.Spectra
import GeneticRepair.Proofs.Number.Comparison
import GeneticRepair.Proofs.Outcome
import GeneticRepair.Proofs.Toolchain.Coherence
import Mathlib.Data.List.Sort

/-!
# Coverage that is recorded

A document may record the coverage of tests in any order, a test more than once, and lines in any
order and more than once. The map that is read from it has the last record of each test, and its
tests and their lines ascend. So it is written in one way only, and read back as it is. But maps are
compared by value: one with a time that is no number differs even from itself.
-/

namespace GeneticRepair

open Entries (AtLast)

/-! ## Values compared with themselves -/

namespace Value

private theorem same_self_iff {v : Value} {q : Quantity} (h : v.quantity? = some q) :
    v.same v = true ↔ v.isUndefined = false := by
  cases v with
  | bool b => cases b <;> decide
  | int n =>
    have hsame : Number.same (.int n) (.int n) = true := by
      simp [Number.same, Number.compare?]
    exact iff_of_true hsame rfl
  | float x =>
    have hsame : (float x).same (float x) = !x.isNaN := Number.same_self_float x
    rw [hsame, Bool.not_eq_true', isUndefined]
  | _ => cases h

private theorem sameItems_ints (ns : List Int) : sameItems (ns.map int) (ns.map int) = true := by
  induction ns with
  | nil => rfl
  | cons n ns ih =>
    have hn : (int n).same (int n) = true := (same_self_iff rfl).mpr rfl
    rw [List.map_cons, sameItems, hn, ih]
    rfl

end Value

namespace TestOutcome

variable {o : TestOutcome}

/-- The verdict is a truth value, and the time a number. -/
def Measured (o : TestOutcome) : Prop :=
  ∃ b x, o = ⟨.bool b, .ofNumber x⟩

private theorem Measured.same_self_iff (h : o.Measured) :
    o.same o = true ↔ o.timeTaken.isUndefined = false := by
  obtain ⟨b, x, rfl⟩ := h
  have hverdict : (Value.bool b).same (.bool b) = true := (Value.same_self_iff rfl).mpr rfl
  have htime : (Value.ofNumber x).quantity? = some (.number x) := by
    cases x <;> rfl
  rw [same, hverdict, Bool.true_and, Value.same_self_iff htime]

end TestOutcome

/-! ## Records -/

/-- What a document records of a test. -/
structure CoverageRecord where
  test : String
  outcome : TestOutcome
  lines : List Int

namespace CoverageRecord

def coverage (r : CoverageRecord) : TestCoverage :=
  .make r.test r.outcome r.lines

def parts (r : CoverageRecord) : Value × TestOutcome × List Key :=
  (.text r.test, r.outcome, r.lines.map Key.ofInt)

end CoverageRecord

namespace TestCoverage

def keyed (c : TestCoverage) : TestCoverage Key Key :=
  ⟨.text c.test, c.outcome, c.lines.map Key.ofInt⟩

def record (c : TestCoverage) : CoverageRecord :=
  ⟨c.test, c.outcome, c.lines⟩

private theorem map_toValue_keyed (c : TestCoverage) :
    c.keyed.lines.map ToValue.toValue = c.lines.map Value.int := by
  rw [keyed, List.map_map]
  rfl

private theorem recordOfValue_keyed (c : TestCoverage) :
    CoverageMap.recordOfValue c.keyed.toValue = .ok c.record.parts := by
  have hlines : (c.keyed.lines.map ToValue.toValue).mapM Key.ofValue =
      .ok (c.lines.map Key.ofInt) := by
    rw [map_toValue_keyed, List.mapM_map]
    exact mapM_eq_ok fun line _ => rfl
  exact congrArg (fun lines => lines >>= fun ks =>
    (.ok (Value.text c.test, c.outcome, ks) : Except DocumentError _)) hlines

private theorem same_keyed (c : TestCoverage) :
    c.keyed.same c.keyed = c.outcome.same c.outcome := by
  have htest : (Value.text c.test).same (.text c.test) = true := beq_self_eq_true c.test
  have hlines : (Value.list (c.keyed.lines.map ToValue.toValue)).same
      (.list (c.keyed.lines.map ToValue.toValue)) = true := by
    rw [map_toValue_keyed, Value.same, Value.sameItems_ints]
  rw [same, hlines, Bool.and_true]
  change ((Value.text c.test).same (.text c.test) && c.outcome.same c.outcome) = _
  rw [htest, Bool.true_and]

end TestCoverage

namespace CoverageMap

variable {m : CoverageMap} {doc : Value} {rs : List CoverageRecord}

def keyed (m : CoverageMap) : CoverageMap Key Key :=
  ⟨m.entries.map (Prod.map Key.text TestCoverage.keyed)⟩

private theorem tests_keyed (m : CoverageMap) : m.keyed.tests = m.tests.map TestCoverage.keyed := by
  rw [tests, keyed, List.map_map, tests, List.map_map]
  rfl

/-! ## Reading -/

/-- The document lists the records. -/
def Lists (doc : Value) (rs : List CoverageRecord) : Prop :=
  ∃ vs, doc.items = .ok vs ∧ vs.mapM recordOfValue = .ok (rs.map CoverageRecord.parts)

def ofRecords (rs : List CoverageRecord) : CoverageMap :=
  ofList (rs.map CoverageRecord.coverage)

private theorem ofList_keyed (rs : List CoverageRecord) :
    ofList (rs.map fun r => TestCoverage.make (Key.text r.test) r.outcome (r.lines.map Key.ofInt)) =
      (ofRecords rs).keyed := by
  have hmake : ∀ r : CoverageRecord,
      TestCoverage.make (Key.text r.test) r.outcome (r.lines.map Key.ofInt) = r.coverage.keyed := by
    intro r
    simp only [TestCoverage.make, TestCoverage.keyed, CoverageRecord.coverage,
      Sorted.ofList_map fun _ _ => Key.ofInt_lt]
  have hentries := Sorted.ofEntries_map (g := TestCoverage.keyed) (fun _ _ => Key.text_lt)
    (rs.map fun r => (r.test, r.coverage))
  simp only [hmake, ofRecords, ofList, keyed, List.map_map]
  rw [List.map_map] at hentries
  exact congrArg CoverageMap.mk hentries

private theorem ofValue_of_lists (h : Lists doc rs) : ofValue doc = .ok (ofRecords rs).keyed := by
  obtain ⟨vs, hitems, hrecords⟩ := h
  have hnames : (rs.map CoverageRecord.parts).mapM (fun p => Key.ofValue p.1) =
      .ok (rs.map fun r => Key.text r.test) := by
    rw [List.mapM_map]
    exact mapM_eq_ok fun r _ => rfl
  have hsortable : checkSortable (rs.map fun r => Key.text r.test) = .ok () := by
    have hkeys := Key.sortable_map_text (rs.map CoverageRecord.test)
    rw [List.map_map] at hkeys
    exact if_pos hkeys
  have hlines : (rs.map CoverageRecord.parts).forM (fun p => checkSortable p.2.2) = .ok () := by
    clear hnames hsortable hrecords
    induction rs with
    | nil => rfl
    | cons r rs ih =>
      have hr : checkSortable r.parts.2.2 = .ok () := if_pos (Key.sortable_map_ofInt r.lines)
      change (checkSortable r.parts.2.2 >>= _) = _
      rw [hr]
      exact ih
  have hzip : (rs.map fun r => Key.text r.test).zip (rs.map CoverageRecord.parts) =
      rs.map fun r => (Key.text r.test, r.parts) := List.zip_map'
  unfold ofValue
  refine bind_eq_ok.mpr ⟨_, hitems, bind_eq_ok.mpr ⟨_, hrecords, bind_eq_ok.mpr ⟨_, hnames,
    bind_eq_ok.mpr ⟨_, hsortable, bind_eq_ok.mpr ⟨_, hlines, ?_⟩⟩⟩⟩⟩
  rw [hzip, List.map_map, ← ofList_keyed]
  rfl

/-! ## The canonical form -/

/-- The tests ascend, each comes by its name, and its lines ascend. -/
structure Canonical (m : CoverageMap) : Prop where
  ascending : m.names.Pairwise (· < ·)
  named : ∀ e ∈ m.entries, e.2.test = e.1
  sorted : m.Ascending

private theorem mem_entries_ofRecords {name : String} {c : TestCoverage} :
    (name, c) ∈ (ofRecords rs).entries ↔ AtLast (rs.map fun r => (r.test, r.coverage)) name c := by
  rw [ofRecords, ofList, Sorted.mem_ofEntries, List.map_map]
  rfl

private theorem exists_of_mem_entries {e : String × TestCoverage} (h : e ∈ (ofRecords rs).entries) :
    ∃ r ∈ rs, e = (r.test, r.coverage) := by
  obtain ⟨r, hr, he⟩ := List.mem_map.mp (mem_entries_ofRecords.mp h).mem
  exact ⟨r, hr, he.symm⟩

private theorem canonical_ofRecords (rs : List CoverageRecord) : (ofRecords rs).Canonical := by
  refine ⟨Sorted.pairwise_keys_ofEntries _, fun e he => ?_, ?_⟩
  · obtain ⟨r, -, rfl⟩ := exists_of_mem_entries he
    rfl
  · have hsorted := ascending_ofList (rs.map fun r => (r.test, r.outcome, r.lines))
    rw [List.map_map] at hsorted
    exact hsorted

private theorem ofRecords_perm {rs' : List CoverageRecord} (h : rs'.Perm rs)
    (hnodup : (rs.map CoverageRecord.test).Nodup) : ofRecords rs' = ofRecords rs := by
  have hentries : ∀ l : List CoverageRecord, (ofRecords l).entries =
      Sorted.ofEntries (l.map fun r => (r.test, r.coverage)) := by
    intro l
    rw [ofRecords, ofList, List.map_map]
    rfl
  have hkeys : ((rs.map fun r => (r.test, r.coverage)).map Prod.fst).Nodup := by
    rwa [List.map_map]
  have heq : (ofRecords rs').entries = (ofRecords rs).entries := by
    rw [hentries, hentries]
    exact (Sorted.ofEntries_perm (h.symm.map _) hkeys).symm
  exact congrArg CoverageMap.mk heq

namespace Canonical

private theorem ofRecords_tests (hm : m.Canonical) :
    ofRecords (m.tests.map TestCoverage.record) = m := by
  have hcoverage : ∀ e ∈ m.entries, (e.2.record.test, e.2.record.coverage) = e := by
    intro e he
    have hlines : Sorted.ofList e.2.lines = e.2.lines :=
      (Sorted.pairwise_ofList _).eq_of_mem_iff (hm.sorted e.2 (List.mem_map_of_mem he))
        fun _ => Sorted.mem_ofList
    have hmake : e.2.record.coverage = e.2 := by
      rw [CoverageRecord.coverage, TestCoverage.make, TestCoverage.record, hlines]
    rw [hmake]
    exact Prod.ext (hm.named e he) rfl
  have hentries : ((m.tests.map TestCoverage.record).map CoverageRecord.coverage).map
      (fun c => (c.test, c)) = m.entries := by
    rw [tests, List.map_map, List.map_map, List.map_map]
    exact (List.map_congr_left hcoverage).trans (List.map_id m.entries)
  rw [ofRecords, ofList, hentries, Sorted.ofEntries_eq_self hm.ascending]

/-- What is written is read back. -/
theorem ofValue_toValue (hm : m.Canonical) : ofValue m.keyed.toValue = .ok m.keyed := by
  have hlists : Lists m.keyed.toValue (m.tests.map TestCoverage.record) := by
    refine ⟨m.keyed.tests.map TestCoverage.toValue, rfl, ?_⟩
    rw [tests_keyed, List.mapM_map, List.mapM_map, List.map_map]
    exact mapM_eq_ok fun c _ => c.recordOfValue_keyed
  rw [ofValue_of_lists hlists, hm.ofRecords_tests]

private theorem isReadBack_iff (hm : m.Canonical) :
    m.keyed.isReadBack = true ↔ ∀ c ∈ m.tests, c.outcome.same c.outcome = true := by
  have hzip : m.keyed.tests.zip m.keyed.tests = m.tests.map fun c => (c.keyed, c.keyed) := by
    rw [tests_keyed]
    exact List.zip_map'
  rw [isReadBack, hm.ofValue_toValue]
  simp only [CoverageMap.same, hzip, beq_self_eq_true, Bool.true_and, List.all_map,
    List.all_eq_true, Function.comp_apply, TestCoverage.same_keyed]

end Canonical

/-! ## Passing and failing tests -/

section Verdicts

variable {N L : Type} {n : CoverageMap N L}

private theorem disjoint_passing_failing (h : n.names.Nodup) :
    n.passing.names.Disjoint n.failing.names := by
  intro name hpassing hfailing
  obtain ⟨e, he, rfl⟩ := List.mem_map.mp hpassing
  obtain ⟨f, hf, heq⟩ := List.mem_map.mp hfailing
  rw [passing, restrict, List.mem_filter] at he
  rw [failing, restrict, List.mem_filter] at hf
  obtain rfl := List.inj_on_of_nodup_map h hf.1 he.1 heq
  have hpasses : f.2.successful = true := he.2
  have hfails : (!f.2.successful) = true := hf.2
  rw [hpasses] at hfails
  cases hfails

private theorem passing_append_failing (n : CoverageMap N L) :
    (n.passing.entries ++ n.failing.entries).Perm n.entries :=
  List.filter_append_perm (fun e : N × TestCoverage N L => e.2.successful) n.entries

end Verdicts

private theorem nodup_names_keyed (h : m.names.Nodup) : m.keyed.names.Nodup := by
  have hnames : m.keyed.names = m.names.map Key.text := by
    rw [names, keyed, List.map_map, names, List.map_map]
    rfl
  rw [hnames]
  exact h.map fun _ _ hkey => Key.text.inj hkey

/-! ## Laws -/

/-- What holds of the map that is read from some records. -/
structure Recorded (rs : List CoverageRecord) (m : CoverageMap) : Prop where
  ascending : m.names.Pairwise (· < ·)
  /-- Each test has its last record. -/
  mem_entries : ∀ name c,
    (name, c) ∈ m.entries ↔ AtLast (rs.map fun r => (r.test, r.coverage)) name c
  lines : ∀ r ∈ rs, r.coverage.lines.Pairwise (· < ·) ∧
    ∀ line, line ∈ r.coverage.lines ↔ line ∈ r.lines
  readBack : ofValue m.keyed.toValue = .ok m.keyed
  readSame : m.keyed.isReadBack = true ↔ ∀ c ∈ m.tests, c.outcome.same c.outcome = true
  readSame_of_measured : (∀ r ∈ rs, r.outcome.Measured) →
    (m.keyed.isReadBack = true ↔ ∀ c ∈ m.tests, c.outcome.timeTaken.isUndefined = false)
  disjoint : m.keyed.passing.names.Disjoint m.keyed.failing.names
  together : (m.keyed.passing.entries ++ m.keyed.failing.entries).Perm m.keyed.entries
  size_eq : m.keyed.passing.size + m.keyed.failing.size = m.keyed.size
  /-- It is the same map, so what is written, shown or counted is the same, too. -/
  unordered : ∀ doc' rs', Lists doc' rs' → rs'.Perm rs → (rs.map CoverageRecord.test).Nodup →
    ofValue doc' = .ok m.keyed

/-- A list of records is read, and the map has the last record of each test. -/
theorem ofValue_recorded (h : Lists doc rs) :
    ∃ m : CoverageMap, ofValue doc = .ok m.keyed ∧ Recorded rs m := by
  have hm := canonical_ofRecords rs
  have hmeasured : (∀ r ∈ rs, r.outcome.Measured) →
      ((∀ c ∈ (ofRecords rs).tests, c.outcome.same c.outcome = true) ↔
        ∀ c ∈ (ofRecords rs).tests, c.outcome.timeTaken.isUndefined = false) := by
    refine fun hrs => forall₂_congr fun c hc => ?_
    obtain ⟨e, he, rfl⟩ := List.mem_map.mp hc
    obtain ⟨r, hr, rfl⟩ := exists_of_mem_entries he
    exact (hrs r hr).same_self_iff
  refine ⟨ofRecords rs, ofValue_of_lists h, hm.ascending, fun _ _ => mem_entries_ofRecords,
    fun r _ => ⟨Sorted.pairwise_ofList _, fun _ => Sorted.mem_ofList⟩, hm.ofValue_toValue,
    hm.isReadBack_iff, fun hrs => hm.isReadBack_iff.trans (hmeasured hrs),
    disjoint_passing_failing (nodup_names_keyed (nodup_names_ofList _)),
    passing_append_failing _, ?_, ?_⟩
  · have hsizes := length_passing_add_length_failing (m := (ofRecords rs).keyed)
    simpa only [names, List.length_map, size] using hsizes
  · intro doc' rs' h' hperm hnodup
    rw [ofValue_of_lists h', ofRecords_perm hperm hnodup]

/-- Two tests, of which one is recorded twice. -/
theorem ofValue_recorded_of_three :
    let entry (name : String) (successful : Bool) (lines : List Int) : Value :=
      .map [("name", .text name), ("lines", .list (lines.map .int)), ("outcome",
        .map [("time-taken", .float 0.5), ("successful", .bool successful)])]
    let doc := Value.list [entry "b" true [7], entry "a" false [3, 1, 3], entry "b" true [2]]
    let outcome (successful : Bool) : TestOutcome := ⟨.bool successful, .float 0.5⟩
    let rs : List CoverageRecord :=
      [⟨"b", outcome true, [7]⟩, ⟨"a", outcome false, [3, 1, 3]⟩, ⟨"b", outcome true, [2]⟩]
    Lists doc rs ∧ ∃ m : CoverageMap, ofValue doc = .ok m.keyed ∧ Recorded rs m := by
  intro entry doc outcome rs
  have hlists : Lists doc rs := ⟨_, rfl, rfl⟩
  exact ⟨hlists, ofValue_recorded hlists⟩

/-- If the time of a test is no number, the map differs from what is read back. -/
theorem not_readSame_of_undefined :
    let doc := Value.list [.map [("name", .text "t"), ("outcome",
      .map [("successful", .bool true), ("time-taken", .float (0.0 / 0.0))]), ("lines",
        .list [.int 1])]]
    Lists doc [⟨"t", ⟨.bool true, .float (0.0 / 0.0)⟩, [1]⟩] ∧
      (ofValue doc).toOption.map isReadBack = some false := by
  refine ⟨⟨_, rfl, rfl⟩, ?_⟩
  decide +kernel

end CoverageMap

end GeneticRepair
