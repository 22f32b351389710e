import GeneticRepair.Proofs.Candidate.Memo

/-!
# What a candidate is known to compile to

Whether a candidate compiles is remembered from a compilation until its tests are run, and then from
the test run, whose build need not come to the same. The verdict of a failed compilation is final;
that of a successful one lasts until a test run whose own build fails.
-/

namespace GeneticRepair

variable {R T G : Type}

/-- A memo holds the last build of a record, that of the test run if there is one. -/
structure Memo.Follows (m : Memo) (uses : List Use) : Prop where
  compiled : ∀ build, .compilation (.ok build) ∈ uses → (∀ r, .testing (.ok r) ∉ uses) →
    m.build = some build
  tested : ∀ r, .testing (.ok r) ∈ uses → m.result = some r ∧ m.build = some r.build
  /-- The tests of a failed build are not run. -/
  built : ∀ build r, .compilation (.ok build) ∈ uses → .testing (.ok r) ∈ uses →
    build.successful = true

namespace Memo.Follows

variable {m m' : Memo} {uses : List Use}

private theorem nil : m.Follows [] := by
  constructor <;> simp

private theorem not_tested (h : m.Follows uses) (hresult : m.result = none) (r : TestRun) :
    .testing (.ok r) ∉ uses := by
  intro hr
  cases (h.tested r hr).1.symm.trans hresult

private theorem not_compiled (h : m.Follows uses) (hresult : m.result = none)
    (hbuild : m.build = none)
    (build : BuildOutcome) : .compilation (.ok build) ∉ uses := by
  intro hb
  cases (h.compiled build hb (h.not_tested hresult)).symm.trans hbuild

private theorem of_untested (h : m.Follows uses) (hresult : m.result = none)
    (hbuild : ∀ build, m.build = some build → m'.build = some build) : m'.Follows uses where
  compiled build hb ht := hbuild build (h.compiled build hb ht)
  tested r hr := (h.not_tested hresult r hr).elim
  built _ r _ hr := (h.not_tested hresult r hr).elim

private theorem of_error (h : m.Follows uses) {u : Use} (hu : u.isRaised = true) :
    m.Follows (uses ++ [u]) := by
  have hmem : ∀ v : Use, v.isRaised = false → v ∈ uses ++ [u] → v ∈ uses := by
    intro v hv hmem
    obtain hmem | hmem := List.mem_append.mp hmem
    · exact hmem
    · rw [List.mem_singleton.mp hmem, hu] at hv
      cases hv
  constructor
  · intro build hb ht
    exact h.compiled build (hmem _ rfl hb) fun r hr => ht r (List.mem_append_left _ hr)
  · exact fun r hr => h.tested r (hmem _ rfl hr)
  · exact fun build r hb hr => h.built build r (hmem _ rfl hb) (hmem _ rfl hr)

private theorem of_built (h : m.Follows uses) (hresult : m.result = none) (hbuild : m.build = none)
    (build : BuildOutcome) :
    Memo.Follows { m with build := some build } (uses ++ [.compilation (.ok build)]) := by
  have hnot : ∀ r, .testing (.ok r) ∉ uses ++ [.compilation (.ok build)] := by
    intro r hr
    simp [h.not_tested hresult r] at hr
  constructor
  · intro b hb _
    obtain hb | hb := List.mem_append.mp hb
    · exact (h.not_compiled hresult hbuild b hb).elim
    · cases List.mem_singleton.mp hb
      rfl
  · exact fun r hr => (hnot r hr).elim
  · exact fun _ r _ hr => (hnot r hr).elim

private theorem of_tested (h : m.Follows uses) (hresult : m.result = none)
    (hunfailed : ∀ b, m.build = some b → b.successful = true) (r : TestRun) :
    Memo.Follows { m with result := some r, build := some r.build }
      (uses ++ [.testing (.ok r)]) := by
  constructor
  · exact fun _ _ ht => (ht r (by simp)).elim
  · intro r' hr'
    obtain hr' | hr' := List.mem_append.mp hr'
    · exact (h.not_tested hresult r' hr').elim
    · cases List.mem_singleton.mp hr'
      exact ⟨rfl, rfl⟩
  · intro build _ hb _
    have hb : .compilation (.ok build) ∈ uses := by simpa using hb
    exact hunfailed build (h.compiled build hb (h.not_tested hresult))

end Memo.Follows

variable [Toolchain T] {c : Candidate R}

private theorem Candidate.Turn.follows {m m' : Memo} {t t' : Recorder T} (h : c.Turn m t m' t')
    (hm : m.Follows t.uses) : m'.Follows t'.uses := by
  cases h with
  | idle => exact hm
  | built unknown answer =>
    rw [Recorder.uses_of_perform answer]
    exact hm.of_built unknown.2 unknown.1 _
  | unbuilt unknown answer =>
    rw [Recorder.uses_of_perform answer]
    exact hm.of_error rfl
  | tested unknown unfailed answer =>
    rw [Recorder.uses_of_perform answer]
    exact hm.of_tested unknown unfailed _
  | untested unknown unfailed answer =>
    rw [Recorder.uses_of_perform answer]
    exact hm.of_error rfl
  | skipped unknown failed _ => exact hm.of_untested unknown fun _ hb => failed.symm.trans hb
  | recalled unknown known =>
    constructor
    · intro build hb ht
      cases unknown.symm.trans (hm.compiled build hb ht)
    · intro r hr
      cases unknown.symm.trans (hm.tested r hr).2
    · exact hm.built
  | summarized => exact ⟨hm.compiled, hm.tested, hm.built⟩

private theorem Candidate.returns_isCompilable_of_memo {s : Lab T G} {m : Memo}
    {build : BuildOutcome}
    (hm : s.memos[c.memo]? = some m) (hbuild : m.build = some build) :
    Returns c.isCompilable s build.successful s := by
  rw [isCompilable, Returns, (Lab.returns_memo hm).run_bind, hbuild]
  exact returns_pure.mpr ⟨rfl, rfl⟩

namespace Question

variable [Scalar R] {s : Lab (Recorder T) G} {asked : List (Question × Candidate R)}

private theorem follows_after (hcopies : AmongCopies c asked)
    (h : ∃ m, s.memos[c.memo]? = some m ∧ m.Follows s.toolchain.uses) :
    ∃ m, (after s asked).memos[c.memo]? = some m ∧ m.Follows (after s asked).toolchain.uses :=
  holds_after hcopies (fun _ _ _ _ _ hm hturn => hturn.follows hm) h

private theorem mem_uses_after (hcopies : AmongCopies c asked) (hmemo : c.memo < s.memos.size)
    {u : Use}
    (hu : u ∈ s.toolchain.uses) : u ∈ (after s asked).toolchain.uses := by
  have hturn : ∀ (c : Candidate R) (m : Memo) (t : Recorder T) (m' : Memo) (t' : Recorder T),
      u ∈ t.uses → c.Turn m t m' t' → u ∈ t'.uses := by
    intro c m t m' t' hu hturn
    cases hturn with
    | idle | skipped | recalled | summarized => exact hu
    | built _ answer | unbuilt _ answer | tested _ _ answer | untested _ _ answer =>
      rw [Recorder.uses_of_perform answer]
      exact List.mem_append_left _ hu
  obtain ⟨_, -, hafter⟩ :=
    holds_after hcopies hturn ⟨_, Array.getElem?_eq_getElem hmemo, hu⟩
  exact hafter

private theorem exists_build_after (hcopies : AmongCopies c asked) {build : BuildOutcome}
    (h : ∃ m, s.memos[c.memo]? = some m ∧ m.Follows s.toolchain.uses)
    (hbuilt : .compilation (.ok build) ∈ s.toolchain.uses) :
    ∃ m last, (after s asked).memos[c.memo]? = some m ∧ m.build = some last ∧
      ((∀ r, .testing (.ok r) ∉ (after s asked).toolchain.uses) → last = build) ∧
      ∀ r, .testing (.ok r) ∈ (after s asked).toolchain.uses →
        last = r.build ∧ build.successful = true := by
  obtain ⟨m, hm, hfollows⟩ := follows_after hcopies h
  have hlt : c.memo < s.memos.size := by
    obtain ⟨_, hm, -⟩ := h
    exact (Array.getElem?_eq_some_iff.mp hm).1
  have hbuilt := mem_uses_after hcopies hlt hbuilt
  by_cases htested : ∃ r, .testing (.ok r) ∈ (after s asked).toolchain.uses
  · obtain ⟨r, hr⟩ := htested
    obtain ⟨-, hlast⟩ := hfollows.tested r hr
    refine ⟨m, r.build, hm, hlast, fun hnone => (hnone r hr).elim, ?_⟩
    intro r' hr'
    have hsame := hlast.symm.trans (hfollows.tested r' hr').2
    exact ⟨Option.some.inj hsame, hfollows.built build r' hbuilt hr'⟩
  · have hnone : ∀ r, .testing (.ok r) ∉ (after s asked).toolchain.uses :=
      fun r hr => htested ⟨r, hr⟩
    exact ⟨m, build, hm, hfollows.compiled build hbuilt hnone, fun _ => rfl,
      fun r hr => (hnone r hr).elim⟩

/-- Once a candidate has been compiled, it is never compiled for a verdict again, and neither are
its copies. The verdict is that of the compilation, if this has failed or as long as the tests have
not been run, and else that of the build of the test run, which it keeps. So it turns at most once,
from success to failure. -/
theorem verdict_after_compilation {lab : Lab (Recorder T) G} (hmemo : c.memo < lab.memos.size)
    (hunused : lab.toolchain.uses = []) (hcopies : AmongCopies c asked) {build : BuildOutcome}
    (hbuilt : .compilation (.ok build) ∈ (after lab asked).toolchain.uses)
    (later : List (Question × Candidate R)) (hlater : AmongCopies c later) :
    let s := after (after lab asked) later
    ∃ verdict,
      (∀ d : Candidate R, d.memo = c.memo → Returns d.isCompilable s verdict s) ∧
      ((∀ r, .testing (.ok r) ∉ s.toolchain.uses) → verdict = build.successful) ∧
      (build.successful = false → verdict = false) ∧
      ∀ r, .testing (.ok r) ∈ s.toolchain.uses → verdict = r.compiled ∧
        ∀ still, AmongCopies c still → ∀ d : Candidate R, d.memo = c.memo →
          Returns d.isCompilable (after s still) verdict (after s still) := by
  intro s
  have hm := Array.getElem?_eq_getElem hmemo
  have hempty : lab.memos[c.memo].Follows lab.toolchain.uses := by
    rw [hunused]
    exact .nil
  have hasked := follows_after hcopies ⟨_, hm, hempty⟩
  obtain ⟨m, last, hm, hlast, huntested, htested⟩ := exists_build_after hlater hasked hbuilt
  refine ⟨last.successful, ?_, ?_, ?_, ?_⟩
  · intro d hd
    rw [← hd] at hm
    exact Candidate.returns_isCompilable_of_memo hm hlast
  · intro hnone
    rw [huntested hnone]
  · intro hfailed
    by_cases hr : ∃ r, .testing (.ok r) ∈ s.toolchain.uses
    · obtain ⟨r, hr⟩ := hr
      cases hfailed.symm.trans (htested r hr).2
    · rw [huntested fun r hin => hr ⟨r, hin⟩, hfailed]
  · intro r hr
    obtain ⟨rfl, -⟩ := htested r hr
    refine ⟨rfl, ?_⟩
    intro still hstill d hd
    obtain ⟨m', hm', hfollows⟩ := follows_after hstill (follows_after hlater hasked)
    have hlt : c.memo < s.memos.size := (Array.getElem?_eq_some_iff.mp hm).1
    have hstays := mem_uses_after hstill hlt hr
    rw [← hd] at hm'
    exact Candidate.returns_isCompilable_of_memo hm' (hfollows.tested r hstays).2

end Question

/-! ## A program that compiles, and does not compile when its tests are run -/

namespace BrokenRun

def rules : SimulationRules :=
  ⟨⟨[], []⟩, ⟨[], ["x"]⟩, [], []⟩

def candidate : Candidate Quantity :=
  ⟨"program", ["x = 1"], ⟨"t.py", ["def test_a(): pass"], [⟨"t.py", none, "test_a"⟩]⟩,
    ⟨.classic true, .raw, .ochiai, ⟨.ofInt 1, .ofInt 10⟩⟩, 0⟩

def lab : Lab (Recorder Simulation) Unit :=
  ⟨⟨.new rules, []⟩, #[.empty], none, ()⟩

/-- The verdict of a compilation that succeeded turns. -/
theorem verdict_turns : ∃ r built tested,
    Returns candidate.isCompilable lab true built ∧ Returns candidate.evaluate built r tested ∧
      Returns candidate.isCompilable tested false tested :=
  ⟨_, _, _, rfl, rfl, rfl⟩

open Question in
/-- Once it has turned, it stays. -/
theorem verdict_stays :
    let s := after (after lab [(.isCompilable, candidate)]) [(.evaluate, candidate)]
    Returns candidate.isCompilable s false s ∧ ∀ still, AmongCopies candidate still →
      Returns candidate.isCompilable (after s still) false (after s still) := by
  intro s
  have hmemo : candidate.memo < lab.memos.size := by decide
  have hcopies : ∀ q, AmongCopies candidate [(q, candidate)] := by
    intro q x hx
    rw [List.mem_singleton.mp hx]
  obtain ⟨verdict, hreturns, -, -, htested⟩ :=
    verdict_after_compilation hmemo rfl (hcopies .isCompilable) (List.mem_singleton_self _) _
      (hcopies .evaluate)
  obtain ⟨rfl, hstays⟩ := htested _ (List.mem_cons_of_mem _ (List.mem_singleton_self _))
  exact ⟨hreturns candidate rfl, fun still hstill => hstays still hstill candidate rfl⟩

end BrokenRun

end GeneticRepair
