import GeneticRepair.Proofs.Collection.RecentlyUsed
import GeneticRepair.Proofs.Toolchain.Cached
import GeneticRepair.Proofs.Toolchain.Simulation

/-!
# What reaches the inner toolchain

A journal keeps the calls that reach a toolchain. As long as there is room for every outcome, a
cached toolchain passes each test run on once, and each compilation at most once: it remembers what
was used last, and so, with room for everything, it remembers everything.
-/

namespace GeneticRepair

namespace Call

def program : Call → Program
  | compile p | runTests p _ => p

def compiled? : Call → Option Program
  | compile p => some p
  | runTests .. => none

/-- What a test run is known by, if the call asks for one: the program and the name of the file. -/
def runKey? : Call → Option (Program × String)
  | compile _ => none
  | runTests p suite => some (p, suite.filename)

def programs (calls : List Call) : List Program :=
  calls.map program

def compiled (calls : List Call) : List Program :=
  calls.filterMap compiled?

def runKeys (calls : List Call) : List (Program × String) :=
  calls.filterMap runKey?

/-- No call of the sequence fails. -/
def Answered {T : Type} [Toolchain T] (t : T) (calls : List Call) : Prop :=
  ∀ before call rest, calls = before ++ call :: rest →
    ∃ reply, call.reply (after t before) = .ok reply

variable {calls : List Call} {p q : Program} {suite : TestSuite}

private theorem mem_programs_concat (call : Call) :
    q ∈ programs (calls ++ [call]) ↔ q ∈ programs calls ∨ q = call.program := by
  rw [programs, List.map_append, List.mem_append, List.map_singleton, List.mem_singleton, programs]

@[simp] theorem compiled_concat_compile :
    compiled (calls ++ [.compile p]) = compiled calls ++ [p] :=
  List.filterMap_append

@[simp] theorem compiled_concat_runTests :
    compiled (calls ++ [.runTests p suite]) = compiled calls :=
  List.filterMap_append.trans (List.append_nil _)

@[simp] theorem runKeys_concat_compile : runKeys (calls ++ [.compile p]) = runKeys calls :=
  List.filterMap_append.trans (List.append_nil _)

@[simp] theorem runKeys_concat_runTests :
    runKeys (calls ++ [.runTests p suite]) = runKeys calls ++ [(p, suite.filename)] :=
  List.filterMap_append

private theorem mem_programs_of_mem_runKeys {key : Program × String} (h : key ∈ runKeys calls) :
    key.1 ∈ programs calls := by
  obtain ⟨call, hcall, hkey⟩ := List.mem_filterMap.mp h
  refine List.mem_map.mpr ⟨call, hcall, ?_⟩
  cases call with
  | compile p => cases hkey
  | runTests p suite =>
    cases hkey
    rfl

end Call

/-- A toolchain with the calls that have reached it. -/
structure Journal (T : Type) where
  inner : T
  calls : List Call

namespace Journal

variable {T : Type}

def note {α : Type} (call : Call) (act : ExceptT ToolchainError (StateM T) α) :
    ExceptT ToolchainError (StateM (Journal T)) α :=
  ExceptT.mk fun s => let (r, inner) := act.run.run s.inner; (r, ⟨inner, s.calls ++ [call]⟩)

instance [Toolchain T] : Toolchain (Journal T) where
  compile p := note (.compile p) (Toolchain.compile p)
  runTests p suite := note (.runTests p suite) (Toolchain.runTests p suite)

variable [Toolchain T] {s s' : Journal T} {p : Program}

private theorem calls_of_compile {r : Except ToolchainError BuildOutcome}
    (h : (Toolchain.compile p).run.run s = (r, s')) : s'.calls = s.calls ++ [.compile p] := by
  cases h
  rfl

private theorem calls_of_runTests {suite : TestSuite} {r : Except ToolchainError TestRun}
    (h : (Toolchain.runTests p suite).run.run s = (r, s')) :
    s'.calls = s.calls ++ [.runTests p suite] := by
  cases h
  rfl

end Journal

namespace Cached

variable {T : Type}

/-! ## Calls -/

section Calls

variable {s : Cached T} {p : Program} {suite : TestSuite}
  {builds : RecentlyUsed Program BuildOutcome} {runs : RecentlyUsed (Program × String) TestRun}

private theorem returns_recallBuild {found : Option BuildOutcome}
    (h : s.builds.get p = (found, builds)) :
    Returns (recallBuild p) s found { s with builds } := by
  show (Except.ok (s.builds.get p).1, { s with builds := (s.builds.get p).2 }) = _
  rw [h]

private theorem returns_recallRun {found : Option TestRun}
    (h : s.runs.get (p, suite.filename) = (found, runs)) :
    Returns (recallRun (p, suite.filename)) s found { s with runs } := by
  show (Except.ok (s.runs.get (p, suite.filename)).1,
    { s with runs := (s.runs.get (p, suite.filename)).2 }) = _
  rw [h]

variable [Toolchain T]

private theorem run_compile_of_some {outcome : BuildOutcome}
    (h : s.builds.get p = (some outcome, builds)) :
    (Toolchain.compile p).run.run s = (.ok outcome, { s with builds }) := by
  change (Cached.compile p).run.run s = _
  rw [Cached.compile, (returns_recallBuild h).run_bind]
  rfl

/-- A build that is not remembered is asked for. If there is an answer, it is remembered. -/
theorem run_compile_of_none (h : s.builds.get p = (none, builds)) :
    (∃ outcome inner, (Toolchain.compile p).run.run s.inner = (.ok outcome, inner) ∧
      (Toolchain.compile p).run.run s =
        (.ok outcome, { s with inner, builds := builds.put p outcome })) ∨
    ∃ e s', (Toolchain.compile p).run.run s = (.error e, s') := by
  change (∃ outcome inner, _ ∧ (Cached.compile p).run.run s = _) ∨
    ∃ e s', (Cached.compile p).run.run s = (.error e, s')
  rw [Cached.compile, (returns_recallBuild h).run_bind]
  rcases hrun : (Toolchain.compile p).run.run s.inner with ⟨r, inner⟩
  cases r with
  | ok outcome => exact .inl ⟨outcome, inner, rfl, run_within_bind hrun⟩
  | error e => exact .inr ⟨e, _, run_within_bind_error hrun⟩

private theorem run_runTests_of_some {result : TestRun}
    (h : s.runs.get (p, suite.filename) = (some result, runs)) :
    (Toolchain.runTests p suite).run.run s = (.ok result, { s with runs }) := by
  change (Cached.runTests p suite).run.run s = _
  rw [Cached.runTests, (returns_recallRun h).run_bind]
  rfl

private theorem run_runTests_of_none (h : s.runs.get (p, suite.filename) = (none, runs)) :
    (∃ result inner, (Toolchain.runTests p suite).run.run s.inner = (.ok result, inner) ∧
      (Toolchain.runTests p suite).run.run s = (.ok result, { s with
        inner
        runs := runs.put (p, suite.filename) result
        builds := s.builds.put p result.build })) ∨
    ∃ e s', (Toolchain.runTests p suite).run.run s = (.error e, s') := by
  change (∃ result inner, _ ∧ (Cached.runTests p suite).run.run s = _) ∨
    ∃ e s', (Cached.runTests p suite).run.run s = (.error e, s')
  rw [Cached.runTests, (returns_recallRun h).run_bind]
  rcases hrun : (Toolchain.runTests p suite).run.run s.inner with ⟨r, inner⟩
  cases r with
  | ok result => exact .inl ⟨result, inner, rfl, run_within_bind hrun⟩
  | error e => exact .inr ⟨e, _, run_within_bind_error hrun⟩

end Calls

/-! ## Sequences of calls -/

variable {room : Nat} {before : List Call} {s s' : Cached (Journal T)}

/-- After the given calls, everything that was asked for has been used, each test run has been
passed on once and each compilation at most once. -/
structure Serving (room : Nat) (before : List Call) (s : Cached (Journal T)) : Prop where
  builds : s.builds.Used room (· ∈ Call.programs before)
  runs : s.runs.Used room (· ∈ Call.runKeys before)
  compiled : (Call.compiled s.inner.calls).Nodup
  compiled_subset : Call.compiled s.inner.calls ⊆ Call.programs before
  tested : (Call.runKeys s.inner.calls).Nodup
  tested_iff : ∀ key, key ∈ Call.runKeys s.inner.calls ↔ key ∈ Call.runKeys before

private theorem serving_ofCapacity (inner : T) (room : Nat) :
    Serving room [] (ofCapacity (Journal.mk inner []) (.ofInt room)) where
  builds := ⟨[], RecentlyUsed.keeps_empty room, fun _ => Iff.rfl⟩
  runs := ⟨[], RecentlyUsed.keeps_empty room, fun _ => Iff.rfl⟩
  compiled := List.nodup_nil
  compiled_subset := List.Subset.refl []
  tested := List.nodup_nil
  tested_iff := fun _ => Iff.rfl

private theorem nodup_concat {α : Type} {l : List α} {a : α} (hl : l.Nodup) (ha : a ∉ l) :
    (l ++ [a]).Nodup := by
  refine List.nodup_append.mpr ⟨hl, List.nodup_singleton a, fun b hb c hc => ?_⟩
  rw [List.mem_singleton.mp hc]
  rintro rfl
  exact ha hb

namespace Serving

variable [Toolchain T] {p : Program} {suite : TestSuite} {programs : List Program}
  {keys : List (Program × String)}

private theorem mem_programs_iff (call : Call) (h : call.program ∈ Call.programs before)
    (q : Program) :
    q ∈ Call.programs before ↔ q ∈ Call.programs (before ++ [call]) := by
  rw [Call.mem_programs_concat]
  refine ⟨.inl, fun hq => hq.elim id ?_⟩
  rintro rfl
  exact h

private theorem compile (h : Serving room before s) {outcome : BuildOutcome}
    (hprograms : Call.programs before ⊆ programs) (hroom : programs.dedup.length ≤ room)
    (hrun : (Toolchain.compile p).run.run s = (.ok outcome, s')) :
    Serving room (before ++ [.compile p]) s' := by
  have hfound := h.builds.found_iff (fun q hq => hprograms hq) hroom p
  have hbuilds := h.builds.get p
  rcases hget : s.builds.get p with ⟨found, builds⟩
  rw [hget] at hfound hbuilds
  cases found with
  | some remembered =>
    obtain rfl : { s with builds } = s' :=
      congrArg Prod.snd ((run_compile_of_some hget).symm.trans hrun)
    have hsame := mem_programs_iff (.compile p) (hfound.mp rfl)
    exact {
      builds := hbuilds.congr hsame
      runs := by simpa using h.runs
      compiled := h.compiled
      compiled_subset := fun q hq => (hsame q).mp (h.compiled_subset hq)
      tested := h.tested
      tested_iff := by simpa using h.tested_iff }
  | none =>
    rcases run_compile_of_none hget with ⟨outcome', inner, hinner, hrun'⟩ | ⟨e, t, herror⟩
    · obtain rfl : { s with inner, builds := builds.put p outcome' } = s' :=
        congrArg Prod.snd (hrun'.symm.trans hrun)
      have hnew : p ∉ Call.programs before := fun hp => by simpa using hfound.mpr hp
      have hcalls := Journal.calls_of_compile hinner
      exact {
        builds := (hbuilds.put p outcome').congr fun q => (Call.mem_programs_concat (.compile p)).symm
        runs := by simpa using h.runs
        compiled := by
          rw [hcalls, Call.compiled_concat_compile]
          exact nodup_concat h.compiled fun hp => hnew (h.compiled_subset hp)
        compiled_subset := by
          intro q hq
          rw [hcalls, Call.compiled_concat_compile, List.mem_append, List.mem_singleton] at hq
          exact (Call.mem_programs_concat _).mpr (hq.imp_left fun hq => h.compiled_subset hq)
        tested := by
          rw [hcalls, Call.runKeys_concat_compile]
          exact h.tested
        tested_iff := by
          intro key
          rw [hcalls, Call.runKeys_concat_compile, Call.runKeys_concat_compile]
          exact h.tested_iff key }
    · rw [herror] at hrun
      cases hrun

private theorem runTests (h : Serving room before s) {result : TestRun}
    (hkeys : Call.runKeys before ⊆ keys) (hroom : keys.dedup.length ≤ room)
    (hrun : (Toolchain.runTests p suite).run.run s = (.ok result, s')) :
    Serving room (before ++ [.runTests p suite]) s' := by
  have hfound := h.runs.found_iff (fun key hkey => hkeys hkey) hroom (p, suite.filename)
  have hruns := h.runs.get (p, suite.filename)
  have hasked : ∀ key, key ∈ Call.runKeys (before ++ [.runTests p suite]) ↔
      key ∈ Call.runKeys before ∨ key = (p, suite.filename) := by simp
  rcases hget : s.runs.get (p, suite.filename) with ⟨found, runs⟩
  rw [hget] at hfound hruns
  cases found with
  | some remembered =>
    obtain rfl : { s with runs } = s' :=
      congrArg Prod.snd ((run_runTests_of_some hget).symm.trans hrun)
    have hbefore : (p, suite.filename) ∈ Call.runKeys before := hfound.mp rfl
    have hprograms := mem_programs_iff (.runTests p suite)
      (Call.mem_programs_of_mem_runKeys hbefore)
    have hsame : ∀ key, key ∈ Call.runKeys before ↔
        key ∈ Call.runKeys (before ++ [.runTests p suite]) := by
      intro key
      rw [hasked]
      refine ⟨.inl, fun hkey => hkey.elim id ?_⟩
      rintro rfl
      exact hbefore
    exact {
      builds := h.builds.congr hprograms
      runs := hruns.congr hsame
      compiled := h.compiled
      compiled_subset := fun q hq => (hprograms q).mp (h.compiled_subset hq)
      tested := h.tested
      tested_iff := fun key => (h.tested_iff key).trans (hsame key) }
  | none =>
    rcases run_runTests_of_none hget with ⟨result', inner, hinner, hrun'⟩ | ⟨e, t, herror⟩
    · obtain rfl : { s with
          inner
          runs := runs.put (p, suite.filename) result'
          builds := s.builds.put p result'.build } = s' :=
        congrArg Prod.snd (hrun'.symm.trans hrun)
      have hnew : (p, suite.filename) ∉ Call.runKeys before := fun hp => by
        simpa using hfound.mpr hp
      have hcalls := Journal.calls_of_runTests hinner
      exact {
        builds := (h.builds.put p result'.build).congr fun q =>
          (Call.mem_programs_concat (.runTests p suite)).symm
        runs := (hruns.put _ result').congr fun key => (hasked key).symm
        compiled := by
          rw [hcalls, Call.compiled_concat_runTests]
          exact h.compiled
        compiled_subset := by
          intro q hq
          rw [hcalls, Call.compiled_concat_runTests] at hq
          exact (Call.mem_programs_concat _).mpr (.inl (h.compiled_subset hq))
        tested := by
          rw [hcalls, Call.runKeys_concat_runTests]
          exact nodup_concat h.tested fun hp => hnew ((h.tested_iff _).mp hp)
        tested_iff := by
          intro key
          rw [hcalls, Call.runKeys_concat_runTests, hasked, List.mem_append, List.mem_singleton,
            h.tested_iff] }
    · rw [herror] at hrun
      cases hrun

/-- A call that is answered leaves the cache serving. -/
theorem next (h : Serving room before s) {call : Call} {reply : Reply}
    (hreply : call.reply s = .ok reply) (hprograms : Call.programs before ⊆ programs)
    (hprogramRoom : programs.dedup.length ≤ room) (hkeys : Call.runKeys before ⊆ keys)
    (hkeyRoom : keys.dedup.length ≤ room) : Serving room (before ++ [call]) (Call.next s call) := by
  cases call with
  | compile p =>
    rcases hrun : (Toolchain.compile p).run.run s with ⟨r, s'⟩
    rw [Call.reply_compile, hrun] at hreply
    rw [Call.next_compile, hrun]
    cases r with
    | ok outcome => exact h.compile hprograms hprogramRoom hrun
    | error e => cases hreply
  | runTests p suite =>
    rcases hrun : (Toolchain.runTests p suite).run.run s with ⟨r, s'⟩
    rw [Call.reply_runTests, hrun] at hreply
    rw [Call.next_runTests, hrun]
    cases r with
    | ok result => exact h.runTests hkeys hkeyRoom hrun
    | error e => cases hreply

end Serving

variable [Toolchain T] {calls : List Call}

private theorem serving_after {inner : T}
    (hanswered : Call.Answered (ofCapacity (Journal.mk inner []) (.ofInt room)) calls)
    (hprograms : (Call.programs calls).dedup.length ≤ room)
    (hkeys : (Call.runKeys calls).dedup.length ≤ room) {before rest : List Call}
    (hcalls : calls = before ++ rest) :
    Serving room before (Call.after (ofCapacity (Journal.mk inner []) (.ofInt room)) before) := by
  induction before using List.reverseRecOn generalizing rest with
  | nil => exact serving_ofCapacity inner room
  | append_singleton before call ih =>
    rw [List.append_assoc, List.singleton_append] at hcalls
    obtain ⟨reply, hreply⟩ := hanswered before call rest hcalls
    have hprogramsBefore : Call.programs before ⊆ Call.programs calls := by
      rw [hcalls, Call.programs, Call.programs, List.map_append]
      exact List.subset_append_left _ _
    have hkeysBefore : Call.runKeys before ⊆ Call.runKeys calls := by
      rw [hcalls, Call.runKeys, Call.runKeys, List.filterMap_append]
      exact List.subset_append_left _ _
    rw [Call.after, List.foldl_append]
    exact (ih hcalls).next hreply hprogramsBefore hprograms hkeysBefore hkeys

/-- A map of recently used entries holds the keys that were used last, and nothing else. So a cached
toolchain with room for all programs and all test runs that it is asked for passes each of the test
runs on once, and no compilation twice, as long as no call fails. -/
theorem keeps_recent_and_passes_once :
    (∀ (K V : Type) [DecidableEq K] (room : Nat) (ops : List (RecentlyUsed.Operation K V)),
      let m := RecentlyUsed.performAll (.empty (some room)) ops
      let kept := RecentlyUsed.recent room (RecentlyUsed.usedBy room ops)
      m.entries.map Prod.fst = kept ∧
        kept.length = min room (RecentlyUsed.usedBy room ops).dedup.length ∧
        (∀ entry ∈ m.entries, RecentlyUsed.lastPut ops entry.1 = some entry.2) ∧
        (∀ key ∈ kept, ∃ value, RecentlyUsed.lastPut ops key = some value ∧
          (m.get key).1 = some value) ∧
        (∀ key ∉ kept, (m.get key).1 = none) ∧ m.size ≤ room) ∧
    ∀ (inner : T) (room : Nat) (cache : Cached (Journal T)) (calls : List Call),
      new? ⟨inner, []⟩ (.ofInt room) = some cache → Call.Answered cache calls →
      (Call.programs calls).dedup.length ≤ room → (Call.runKeys calls).dedup.length ≤ room →
      let reached := (Call.after cache calls).inner.calls
      (∀ key ∈ Call.runKeys calls, (Call.runKeys reached).count key = 1) ∧
        (∀ key ∉ Call.runKeys calls, (Call.runKeys reached).count key = 0) ∧
        ∀ p, (Call.compiled reached).count p ≤ 1 := by
  refine ⟨fun K V _ => RecentlyUsed.kept_performAll, fun inner room cache calls hcache hanswered
    hprograms hkeys => ?_⟩
  obtain rfl : ofCapacity ⟨inner, []⟩ (.ofInt room) = cache := by
    rw [new?] at hcache
    split at hcache
    · cases hcache
    · exact Option.some.inj hcache
  have hserving := serving_after hanswered hprograms hkeys (List.append_nil calls).symm
  refine ⟨fun key hkey => ?_, fun key hkey => ?_, fun p => ?_⟩
  · exact List.count_eq_one_of_mem hserving.tested ((hserving.tested_iff key).mpr hkey)
  · exact List.count_eq_zero_of_not_mem (mt (hserving.tested_iff key).mp hkey)
  · exact List.nodup_iff_count_le_one.mp hserving.compiled p

/-! ## A program that is tested twice -/

private theorem answered_nil (t : T) : Call.Answered t [] := by
  intro before call rest h
  exact absurd h (by simp)

private theorem answered_cons {t : T} {call : Call} {reply : Reply}
    (hreply : call.reply t = .ok reply)
    (hcalls : Call.Answered (Call.next t call) calls) : Call.Answered t (call :: calls) := by
  intro before call' rest h
  cases before with
  | nil =>
    obtain ⟨rfl, -⟩ := List.cons.inj h
    exact ⟨reply, hreply⟩
  | cons first before =>
    obtain ⟨rfl, hrest⟩ := List.cons.inj h
    exact hcalls before call' rest hrest

namespace Retested

def rules : SimulationRules :=
  ⟨⟨[], []⟩, ⟨[], []⟩, [], []⟩

def program : Program :=
  ⟨"prog", ["x = 1"]⟩

def suite : TestSuite :=
  ⟨"t.py", [], [⟨"t.py", none, "test_a"⟩]⟩

def requests : List Call :=
  [.compile ⟨"prog", ["x = 2"]⟩, .runTests program suite, .compile program, .runTests program suite]

def cache : Cached (Journal Simulation) :=
  ofCapacity ⟨.new rules, []⟩ (.ofInt 2)

/-- With room for two outcomes, the program is tested once. A third key drives out the one that was
used least recently. -/
theorem passes_once :
    Call.Answered cache requests ∧ (Call.programs requests).dedup.length ≤ 2 ∧
      (Call.runKeys (Call.after cache requests).inner.calls).count (program, "t.py") = 1 ∧
      (Call.compiled (Call.after cache requests).inner.calls).count program ≤ 1 ∧
      ((RecentlyUsed.performAll (.empty (some 2))
        [.put "a" 1, .put "b" 2, .get "a", .put "c" 3]).entries.map Prod.fst) = ["a", "c"] := by
  have hanswered : Call.Answered cache requests :=
    answered_cons rfl (answered_cons rfl (answered_cons rfl (answered_cons rfl (answered_nil _))))
  obtain ⟨hkept, hpassed⟩ := keeps_recent_and_passes_once (T := Simulation)
  obtain ⟨hrun, -, hcompiled⟩ :=
    hpassed (.new rules) 2 cache requests rfl hanswered (by decide) (by decide)
  refine ⟨hanswered, by decide, hrun _ (by decide), hcompiled _, ?_⟩
  rw [(hkept String Nat 2 _).1]
  decide

end Retested

end Cached

end GeneticRepair
