import GeneticRepair.Proofs.Candidate.Question
import GeneticRepair.Proofs.Toolchain.Simulation

/-!
# One evaluation at most

A recorder keeps, of each use of a toolchain, what was answered. However often a candidate and its
copies are asked whatever is asked of candidates, they are built and tested at most once between
them, and after a failed build or a test run the toolchain is not used any more. A use that fails is
forgotten.
-/

namespace GeneticRepair

/-- A use of a toolchain, with the answer. -/
inductive Use where
  | compilation (answer : Except ToolchainError BuildOutcome)
  | testing (answer : Except ToolchainError TestRun)

namespace Use

/-- The program has been compiled, with or without success. -/
def isBuild : Use → Bool
  | compilation (.ok _) => true
  | _ => false

def isFailedBuild : Use → Bool
  | compilation (.ok build) => !build.successful
  | _ => false

def isTestRun : Use → Bool
  | testing (.ok _) => true
  | _ => false

def isRaised : Use → Bool
  | compilation (.error _) | testing (.error _) => true
  | _ => false

def isFinal (u : Use) : Bool :=
  u.isFailedBuild || u.isTestRun

end Use

/-- A toolchain with the record of its uses. -/
structure Recorder (T : Type) where
  inner : T
  uses : List Use

namespace Recorder

variable {T : Type}

def perform {α : Type} (use : Except ToolchainError α → Use)
    (act : ExceptT ToolchainError (StateM T) α) : ExceptT ToolchainError (StateM (Recorder T)) α :=
  ExceptT.mk fun s => let (r, inner) := act.run.run s.inner; (r, ⟨inner, s.uses ++ [use r]⟩)

instance [Toolchain T] : Toolchain (Recorder T) where
  compile p := perform .compilation (Toolchain.compile p)
  runTests p suite := perform .testing (Toolchain.runTests p suite)

theorem uses_of_perform {α : Type} {use : Except ToolchainError α → Use}
    {act : ExceptT ToolchainError (StateM T) α} {s s' : Recorder T}
    {r : Except ToolchainError α} (h : (perform use act).run.run s = (r, s')) :
    s'.uses = s.uses ++ [use r] := by
  cases h
  rfl

end Recorder

variable {R T G : Type}

/-- There may be something left to be found out. -/
def Memo.Pending (m : Memo) : Prop :=
  m.result = none ∧ ∀ b, m.build = some b → b.successful = true

/-- The memo of a candidate accounts for all uses of the toolchain. -/
structure Memo.Accounts (m : Memo) (t : Recorder T) : Prop where
  builds : t.uses.countP Use.isBuild ≤ 1
  unbuilt : m.build = none → m.result = none → t.uses.countP Use.isBuild = 0
  /-- Nothing follows a final use. -/
  final : ∀ u ∈ t.uses.dropLast, u.isFinal = false
  pending : m.Pending → ∀ u ∈ t.uses, u.isFinal = false

namespace Memo.Accounts

variable {m m' : Memo} {t t' : Recorder T}

private theorem of_nil (h : t.uses = []) : m.Accounts t := by
  constructor <;> simp [h]

private theorem of_same (h : m.Accounts t) (huses : t'.uses = t.uses)
    (hunbuilt : m'.build = none → m'.result = none → m.build = none ∧ m.result = none)
    (hpending : m'.Pending → m.Pending) : m'.Accounts t' := by
  constructor
  · rw [huses]
    exact h.builds
  · intro hbuild hresult
    obtain ⟨hb, hr⟩ := hunbuilt hbuild hresult
    rw [huses]
    exact h.unbuilt hb hr
  · rw [huses]
    exact h.final
  · intro hp
    rw [huses]
    exact h.pending (hpending hp)

private theorem of_append (h : m.Accounts t) {u : Use} (huses : t'.uses = t.uses ++ [u])
    (hpending : m.Pending) (hbuild : u.isBuild = true → m.build = none ∧ m'.build ≠ none)
    (hunbuilt : m'.build = none → m.build = none) (hfinal : m'.Pending → u.isFinal = false) :
    m'.Accounts t' := by
  have hnone : m.build = none → t.uses.countP Use.isBuild = 0 := by
    intro hb
    exact h.unbuilt hb hpending.1
  constructor
  · rw [huses, List.countP_append, List.countP_singleton]
    by_cases hu : u.isBuild = true
    · simp [hnone (hbuild hu).1, hu]
    · simpa [hu] using h.builds
  · intro hb _
    have hu : u.isBuild = false := by
      by_contra hu
      exact (hbuild (by simpa using hu)).2 hb
    rw [huses, List.countP_append, List.countP_singleton, hnone (hunbuilt hb)]
    simp [hu]
  · rw [huses, List.dropLast_concat]
    exact h.pending hpending
  · intro hp x hx
    rw [huses, List.mem_append, List.mem_singleton] at hx
    obtain hx | rfl := hx
    · exact h.pending hpending x hx
    · exact hfinal hp

private theorem countP_isTestRun_le (h : m.Accounts t) : t.uses.countP Use.isTestRun ≤ 1 := by
  obtain hnil | ⟨us, u, huses⟩ := t.uses.eq_nil_or_concat'
  · simp [hnil]
  · have hfinal := h.final
    rw [huses, List.dropLast_concat] at hfinal
    have hzero : us.countP Use.isTestRun = 0 := by
      apply List.countP_eq_zero.mpr
      intro x hx hrun
      have hx := hfinal x hx
      simp [Use.isFinal, hrun] at hx
    rw [huses, List.countP_append, hzero, Nat.zero_add]
    exact List.countP_le_length

end Memo.Accounts

namespace Candidate.Turn

variable [Toolchain T] {c : Candidate R} {m m' : Memo} {t t' : Recorder T}

private theorem accounts (h : c.Turn m t m' t') (hm : m.Accounts t) : m'.Accounts t' := by
  cases h with
  | idle => exact hm
  | built unknown answer =>
    apply hm.of_append (Recorder.uses_of_perform answer)
    · exact ⟨unknown.2, fun b hb => nomatch unknown.1.symm.trans hb⟩
    · exact fun _ => ⟨unknown.1, nofun⟩
    · exact nofun
    · intro hpending
      simp [Use.isFinal, Use.isFailedBuild, Use.isTestRun, hpending.2]
  | unbuilt unknown answer =>
    apply hm.of_append (Recorder.uses_of_perform answer)
    · exact ⟨unknown.2, fun b hb => nomatch unknown.1.symm.trans hb⟩
    · exact nofun
    · exact fun hb => hb
    · exact fun _ => rfl
  | tested unknown unfailed answer =>
    apply hm.of_append (Recorder.uses_of_perform answer) ⟨unknown, unfailed⟩
    · exact nofun
    · exact nofun
    · intro hpending
      cases hpending.1
  | untested unknown unfailed answer =>
    apply hm.of_append (Recorder.uses_of_perform answer) ⟨unknown, unfailed⟩
    · exact nofun
    · exact fun hb => hb
    · exact fun _ => rfl
  | skipped unknown failed unsuccessful => exact hm.of_same rfl nofun fun hpending => nomatch hpending.1
  | recalled unknown known => exact hm.of_same rfl nofun fun hpending => nomatch known.symm.trans hpending.1
  | summarized known => exact hm.of_same rfl (fun hb hr => ⟨hb, hr⟩) fun hpending => hpending

private theorem of_result (h : c.Turn m t m' t') {r : TestRun} (hr : m.result = some r) :
    m'.result = some r ∧ t'.uses = t.uses := by
  cases h with
  | idle | recalled | summarized => exact ⟨hr, rfl⟩
  | built unknown | unbuilt unknown => cases unknown.2.symm.trans hr
  | tested unknown | untested unknown | skipped unknown => cases unknown.symm.trans hr

private theorem of_raised (h : c.Turn m t m' t') {new : List Use} (hnew : t'.uses = t.uses ++ new)
    (hraised : ∃ u ∈ new, u.isRaised = true) : m' = m := by
  obtain ⟨u, hu, hraised⟩ := hraised
  cases h with
  | idle | unbuilt | untested => rfl
  | built _ answer | tested _ _ answer =>
    rw [Recorder.uses_of_perform answer] at hnew
    obtain rfl := List.append_cancel_left hnew
    obtain rfl := List.mem_singleton.mp hu
    cases hraised
  | skipped | recalled | summarized =>
    obtain rfl : new = [] := by simpa using hnew
    cases hu

end Candidate.Turn

namespace Question

variable [Toolchain T] [Scalar R] {c : Candidate R} {s : Lab (Recorder T) G}
  {asked : List (Question × Candidate R)}

/-- All questions are about candidates that share the memo, as copies do. -/
def AmongCopies (c : Candidate R) (asked : List (Question × Candidate R)) : Prop :=
  ∀ x ∈ asked, x.2.memo = c.memo

private theorem accounts_after (hcopies : AmongCopies c asked)
    (h : ∃ m, s.memos[c.memo]? = some m ∧ m.Accounts s.toolchain) :
    ∃ m, (after s asked).memos[c.memo]? = some m ∧ m.Accounts (after s asked).toolchain :=
  holds_after hcopies (fun _ _ _ _ _ hm hturn => hturn.accounts hm) h

private theorem result_after (hcopies : AmongCopies c asked) {r : TestRun} {m : Memo}
    (hm : s.memos[c.memo]? = some m) (hr : m.result = some r) :
    ∃ m, (after s asked).memos[c.memo]? = some m ∧ m.result = some r ∧
      (after s asked).toolchain.uses = s.toolchain.uses := by
  have hturn : ∀ (c : Candidate R) (m : Memo) (t : Recorder T) (m' : Memo) (t' : Recorder T),
      m.result = some r ∧ t.uses = s.toolchain.uses → c.Turn m t m' t' →
        m'.result = some r ∧ t'.uses = s.toolchain.uses := by
    intro c m t m' t' ⟨hr, huses⟩ hturn
    obtain ⟨hr', huses'⟩ := hturn.of_result hr
    exact ⟨hr', huses'.trans huses⟩
  have h := holds_after hcopies hturn ⟨m, hm, hr, rfl⟩
  exact h

omit [Scalar R] in
private theorem memos_of_raised {s' : Lab (Recorder T) G} (hmoves : c.Moves s s')
    (hmemo : c.memo < s.memos.size) {new : List Use}
    (hnew : s'.toolchain.uses = s.toolchain.uses ++ new)
    (hraised : ∃ u ∈ new, u.isRaised = true) : s'.memos = s.memos := by
  have hm := Array.getElem?_eq_getElem hmemo
  obtain ⟨m', t', hturn, rfl⟩ := hmoves _ hm
  obtain rfl := hturn.of_raised hnew hraised
  rw [Lab.update_self hm]

/-- However often a candidate and its copies are asked, they are compiled at most once and tested at
most once, and the toolchain is not used any more after a failed build or a test run. All later
evaluations come to the result of the first one, without another use of the toolchain. A use without
an answer leaves all memos as they were. -/
theorem evaluated_once {lab : Lab (Recorder T) G} (hmemo : c.memo < lab.memos.size)
    (hunused : lab.toolchain.uses = []) (hcopies : AmongCopies c asked) :
    let s := after lab asked
    s.toolchain.uses.countP Use.isBuild ≤ 1 ∧
    s.toolchain.uses.countP Use.isTestRun ≤ 1 ∧
    (∀ u ∈ s.toolchain.uses.dropLast, u.isFailedBuild = false ∧ u.isTestRun = false) ∧
    (∀ (d : Candidate R) r s', d.memo = c.memo → Returns d.evaluate s r s' →
      ∀ later, AmongCopies c later →
        (after s' later).toolchain.uses = s'.toolchain.uses ∧
        ∀ d' : Candidate R, d'.memo = c.memo →
          Returns d'.evaluate (after s' later) r (after s' later)) ∧
    ∀ (d : Candidate R) (q : Question), d.memo = c.memo → q = isCompilable ∨ q = evaluate →
      ∀ new, (q.next s d).toolchain.uses = s.toolchain.uses ++ new →
        (∃ u ∈ new, u.isRaised = true) → (q.next s d).memos = s.memos := by
  intro s
  have hm := Array.getElem?_eq_getElem hmemo
  obtain ⟨m, hm, haccounts⟩ := accounts_after hcopies ⟨_, hm, Memo.Accounts.of_nil hunused⟩
  refine ⟨haccounts.builds, haccounts.countP_isTestRun_le, ?_, ?_, ?_⟩
  · intro u hu
    have hfinal := haccounts.final u hu
    simpa [Use.isFinal] using hfinal
  · intro d r s' hd hr later hlater
    rw [← hd] at hm
    obtain ⟨m', t', -, hs', hresult⟩ := Candidate.run_evaluate hm
    rw [hr] at hs' hresult
    have hm' : s'.memos[c.memo]? = some m' := by
      rw [← hd, show s' = _ from hs', Lab.memos_update hm]
    obtain ⟨m'', hm'', hr'', huses⟩ := result_after hlater hm' (hresult r rfl)
    refine ⟨huses, ?_⟩
    intro d' hd'
    rw [← hd'] at hm''
    rw [Candidate.evaluate, returns_bind]
    refine ⟨m'', _, Lab.returns_memo hm'', ?_⟩
    rw [hr'']
    exact returns_pure.mpr ⟨rfl, rfl⟩
  · intro d q hd hq new hnew hraised
    rw [← hd] at hm
    have hlt := (Array.getElem?_eq_some_iff.mp hm).1
    obtain rfl | rfl := hq
    · exact memos_of_raised Candidate.moves_isCompilable hlt hnew hraised
    · exact memos_of_raised Candidate.moves_evaluate hlt hnew hraised

end Question

namespace WrongSum

def recordedLab : Lab (Recorder Simulation) Unit :=
  ⟨⟨.new rules, []⟩, #[.empty], none, ()⟩

def asked : List (Question × Candidate Quantity) :=
  [(.fitness, seed), (.isRepair, seed), (.suspiciousness, seed)]

end WrongSum

namespace Question

/-- The seed is compiled and tested once, and never again. -/
theorem evaluated_once_of_wrongSum :
    ∃ r s', Returns WrongSum.seed.evaluate (after WrongSum.recordedLab WrongSum.asked) r s' ∧
      s'.toolchain.uses.length = 2 ∧ ∀ later, AmongCopies WrongSum.seed later →
        (after s' later).toolchain.uses.length = 2 ∧
        Returns WrongSum.seed.evaluate (after s' later) r (after s' later) := by
  have hmemo : WrongSum.seed.memo < WrongSum.recordedLab.memos.size := by decide
  have hcopies : AmongCopies WrongSum.seed WrongSum.asked := by
    intro x hx
    simp only [WrongSum.asked, List.mem_cons, List.not_mem_nil, or_false] at hx
    rcases hx with rfl | rfl | rfl <;> rfl
  obtain ⟨-, -, -, hevaluated, -⟩ := evaluated_once hmemo rfl hcopies
  refine ⟨_, _, rfl, rfl, ?_⟩
  intro later hlater
  obtain ⟨huses, hagain⟩ := hevaluated WrongSum.seed _ _ rfl rfl later hlater
  refine ⟨?_, hagain WrongSum.seed rfl⟩
  rw [huses]
  rfl

end Question

end GeneticRepair
