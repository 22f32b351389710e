import GeneticRepair.Proofs.Candidate.Question
import GeneticRepair.Proofs.Random
import GeneticRepair.Proofs.Search.Stalled
import GeneticRepair.Proofs.Search.Steps
import GeneticRepair.Proofs.Toolchain.Simulation

/-!
# The baseline of a search

No step replaces a baseline. A search whose seed can be evaluated scores the seed before any other
candidate: if the seed compiles then it is the baseline ever after, and if it does not then there is
none, since nothing but the seed is ever scored. If a system fault prevents the evaluation of the
seed, whatever can be evaluated first becomes the baseline.
-/

namespace GeneticRepair

variable {R T G α : Type}

namespace Lab

/-- A baseline that is set stays. -/
def KeepsBaseline (s t : Lab T G) : Prop :=
  ∀ b, s.baseline = some b → t.baseline = some b

private theorem keepsBaseline_of_eq {s t : Lab T G} (h : t.baseline = s.baseline) :
    s.KeepsBaseline t :=
  fun _ hb => h.trans hb

private theorem Step.keepsBaseline {act : Action T G α} (h : Step α act) (s : Lab T G) :
    s.KeepsBaseline (act.run.run s).2 := by
  cases h with
  | get => exact keepsBaseline_of_eq rfl
  | use act => exact keepsBaseline_of_eq rfl
  | draw act => exact keepsBaseline_of_eq rfl
  | newMemo => exact keepsBaseline_of_eq rfl
  | setMemo i m => exact keepsBaseline_of_eq rfl
  | baseline r =>
    intro b hb
    rw [Candidate.returns_baseline s r, hb]
    rfl
  | thread thread takes =>
    cases thread with
    | done a => exact keepsBaseline_of_eq rfl
    | step next update => exact keepsBaseline_of_eq (takes s).1

end Lab

/-! ## Evaluating the seed -/

/-- A remembered result is that of the remembered build. -/
def Memo.Consistent (m : Memo) : Prop :=
  ∀ r, m.result = some r → m.build = some r.build

/-- The candidate has been evaluated, with the given outcome, and there is no baseline. -/
def Lab.Evaluated (c : Candidate R) (r : TestRun) (s : Lab T G) : Prop :=
  s.baseline = none ∧
    ∃ m, s.memos[c.memo]? = some m ∧ m.result = some r ∧ m.build = some r.build

namespace Candidate

variable [Toolchain T] {c : Candidate R} {s t : Lab T G} {m : Memo} {r : TestRun} {e : Failure}

private theorem Turn.consistent {m' : Memo} {x x' : T} (h : c.Turn m x m' x') (hm : m.Consistent) :
    m'.Consistent := by
  cases h with
  | idle => exact hm
  | built unknown _ =>
    intro r hr
    cases unknown.2.symm.trans hr
  | unbuilt => exact hm
  | tested =>
    intro r hr
    rw [← Option.some.inj hr]
  | untested => exact hm
  | skipped =>
    intro r hr
    rw [← Option.some.inj hr]
  | recalled unknown known => cases unknown.symm.trans (hm _ known)
  | summarized => exact hm

private theorem evaluated_of_returns (hbase : s.baseline = none) (hm : s.memos[c.memo]? = some m)
    (hconsistent : m.Consistent) (h : Returns c.evaluate s r t) : t.Evaluated c r := by
  obtain ⟨m', x, hturn, ht, hresult⟩ := run_evaluate hm
  rw [h] at ht hresult
  replace hresult := hresult r rfl
  obtain rfl : t = s.update c.memo m' x := ht
  exact ⟨hbase, m', Lab.memos_update hm, hresult, hturn.consistent hconsistent r hresult⟩

private theorem baseline_of_error (hbase : s.baseline = none) (hm : s.memos[c.memo]? = some m)
    (h : c.evaluate.run.run s = (.error e, t)) : t.baseline = none := by
  obtain ⟨m', x, -, ht, -⟩ := run_evaluate hm
  rw [h] at ht
  rw [show t = _ from ht]
  exact hbase

private theorem returns_isCompilable_of_evaluated (h : s.Evaluated c r) :
    Returns c.isCompilable s r.compiled s := by
  obtain ⟨-, m, hm, -, hbuild⟩ := h
  rw [isCompilable, Returns, (Lab.returns_memo hm).run_bind, hbuild]
  rfl

private theorem returns_evaluate_of_result (hm : s.memos[c.memo]? = some m)
    (hresult : m.result = some r) :
    Returns c.evaluate s r s := by
  rw [evaluate, Returns, (Lab.returns_memo hm).run_bind, hresult]
  rfl

private theorem returns_evaluate?_of_evaluated (h : s.Evaluated c r) :
    Returns c.evaluate? s (some r) s := by
  obtain ⟨-, m, hm, hresult, -⟩ := h
  exact Returns.tryCatch (returns_map.mpr ⟨r, returns_evaluate_of_result hm hresult, rfl⟩)

private theorem baseline_fitness [Scalar R] (h : s.Evaluated c r) (hcompiled : r.compiled = true) :
    (c.fitness.run.run s).2.baseline = some r.baseline := by
  obtain ⟨hbase, m, hm, hresult, hbuild⟩ := h
  have hresult := returns_evaluateCompiled?_of_memo hm hresult hbuild hcompiled
  rw [fitness, hresult.run_bind, (returns_baseline s r).run_bind, hbase]
  cases score c.strategies.weights _ r.passing <;> rfl

private theorem run_evaluate?_of_error (h : c.evaluate.run.run s = (.error e, t))
    (he : ∀ id fault, e ≠ .evaluation id fault) : c.evaluate?.run.run s = (.error e, t) := by
  have hsome : (some <$> c.evaluate : Action T G _).run.run s = (.error e, t) := by
    rw [map_eq_pure_bind, run_bind_error h]
  rw [evaluate?, run_tryCatch_error hsome]
  cases e with
  | evaluation id fault => exact (he id fault rfl).elim
  | _ => rfl

end Candidate

namespace Search

variable [Toolchain T] {c : Candidate R} {s t : Lab T G} {m : Memo} {e : Failure}

omit [Toolchain T] in
private theorem returns_unevaluated (hm : s.memos[c.memo]? = some m) :
    Returns (unevaluated [c]) s (if m.result.isSome then [] else [c]) s := by
  have hevaluated : Returns c.isEvaluated s m.result.isSome s := by
    rw [Candidate.isEvaluated, Candidate.result?, Returns]
    simp only [bind_assoc, pure_bind]
    rw [(Lab.returns_memo hm).run_bind]
    rfl
  rw [unevaluated, Returns]
  simp only [List.filterM, List.filterAuxM, bind_assoc, pure_bind]
  rw [hevaluated.run_bind]
  cases m.result <;> rfl

private theorem returns_evaluateAll (hm : s.memos[c.memo]? = some m) {r : TestRun}
    (h : Returns c.evaluate s r t) : Returns (evaluateAll [c]) s () t := by
  rw [evaluateAll, Returns, (returns_unevaluated hm).run_bind]
  cases hresult : m.result with
  | some result =>
    obtain ⟨-, rfl⟩ := h.eq (Candidate.returns_evaluate_of_result hm hresult)
    rfl
  | none =>
    have hevaluate? : Returns c.evaluate? s (some r) t :=
      Returns.tryCatch (returns_map.mpr ⟨r, h, rfl⟩)
    simp only [Option.isSome_none, Bool.false_eq_true, if_false, distinct, List.filter_nil,
      List.forIn_cons, List.forIn_nil, bind_assoc, pure_bind]
    rw [hevaluate?.run_bind]
    rfl

private theorem run_evaluateAll_of_error (hm : s.memos[c.memo]? = some m)
    (h : c.evaluate.run.run s = (.error e, t)) (he : ∀ id fault, e ≠ .evaluation id fault) :
    (evaluateAll [c]).run.run s = (.error e, t) := by
  rw [evaluateAll, (returns_unevaluated hm).run_bind]
  cases hresult : m.result with
  | some result => cases h.symm.trans (Candidate.returns_evaluate_of_result hm hresult)
  | none =>
    simp only [Option.isSome_none, Bool.false_eq_true, if_false, distinct, List.filter_nil,
      List.forIn_cons, List.forIn_nil, bind_assoc, pure_bind]
    rw [run_bind_error (Candidate.run_evaluate?_of_error h he)]

/-! ## Seeds that do not compile -/

private theorem stalls_of_evaluated {seed : Candidate R} {r : TestRun} (hno : r.compiled = false) :
    Stalls seed (Lab.Evaluated (T := T) (G := G) seed r) where
  isCompilable := by
    intro s hs
    rw [Candidate.returns_isCompilable_of_evaluated hs]
    exact ⟨hno, hs⟩
  evaluate? := by
    intro s hs
    rw [Candidate.returns_evaluate?_of_evaluated hs]
    exact ⟨trivial, hs⟩

omit [Toolchain T] in
private theorem distinct_of_same {seed : Candidate R} {cs : List (Candidate R)}
    (h : ∀ c ∈ cs, c = seed) :
    (distinct cs).length ≤ 1 := by
  cases cs with
  | nil => exact Nat.zero_le 1
  | cons c cs =>
    have hnone : (distinct cs).filter (fun d => !c.same d) = [] := by
      apply List.filter_eq_nil_iff.mpr
      intro d hd
      rw [h c List.mem_cons_self, h d (List.mem_cons_of_mem c (distinct_subset cs hd))]
      simp [Candidate.same]
    rw [distinct, hnone]
    exact le_rfl

/-- Several copies of the seed are not evaluated in a pool. -/
theorem ends_evaluateAllWith [Stepwise T] {seed : Candidate R} {inv : Lab T G → Prop}
    (hstalls : Stalls seed inv) (threads : Quantity) (schedule : List Nat)
    {population : List (Candidate R)} (hpop : ∀ c ∈ population, c = seed) :
    Ends inv (evaluateAllWith threads schedule population) (fun _ => True) fun _ => True := by
  apply ends_unevaluated.bind
  intro pending hpending
  have hsame : ∀ c ∈ pending, c = seed := fun c hc => hpop c (hpending c hc)
  have hfew : ¬ (distinct pending).length > 1 := by
    have hlength := distinct_of_same hsame
    omega
  simp only [hfew, decide_false, Bool.and_false, Bool.false_eq_true, if_false]
  apply ends_evaluateEach
  intro c hc
  rw [hsame c (distinct_subset pending hc)]
  exact hstalls.evaluate?

/-! ## The end of a search -/

variable [Scalar R] [RandomSource G] (settings : SearchSettings R) {seed : Candidate R}
  {lab lab' : Lab T G} {r : TestRun}

/-- The search goes on with the baseline that it has. -/
def KeepsBaseline (s t : Search R T G) : Prop :=
  s.lab.KeepsBaseline t.lab

instance : IsPreorder (Search R T G) KeepsBaseline where
  refl _ _ h := h
  trans _ _ _ h h' b hb := h' b (h b hb)

omit [Toolchain T] [Scalar R] [RandomSource G] in
private theorem Step.keepsBaseline {act : Searching R T G α} (h : Step α act) (s : Search R T G) :
    s.KeepsBaseline (act.run.run s).2 := by
  cases h with
  | get => exact Lab.keepsBaseline_of_eq rfl
  | lab h => exact h.keepsBaseline s.lab
  | outside f h => exact Lab.keepsBaseline_of_eq (congrArg Lab.baseline (h s))

def beginning (seed : Candidate R) (lab : Lab T G) : Search R T G :=
  ⟨lab, true, .initializing, none, [.searchStarted seed]⟩

def scoreSeed (seed : Candidate R) : Searching R T G (List (Candidate R)) := do
  setBest seed Scalar.origin
  setBest seed (← inLab seed.fitness)
  let population ← inLab (initial settings seed)
  report (.generationStarted 0 population.length)
  return population

private theorem run_launch (h : Returns (evaluateAll [seed]) lab () lab') :
    (launch settings seed).run.run (beginning seed lab) =
      (scoreSeed settings seed).run.run (beginning seed lab') := by
  have hlab : Returns (inLab (evaluateAll [seed])) (beginning seed lab) () (beginning seed lab') :=
    returns_inLab.mpr ⟨lab', h, rfl⟩
  have hlaunch : launch settings seed = (do
      enter .initializing
      inLab (evaluateAll [seed])
      scoreSeed settings seed : Searching R T G _) := rfl
  have henter : Returns (enter .initializing) (beginning seed lab) () (beginning seed lab) := rfl
  rw [hlaunch, henter.run_bind, hlab.run_bind]

private theorem run_launch_of_error {e : Failure}
    (h : (evaluateAll [seed]).run.run lab = (.error e, lab')) :
    (launch settings seed).run.run (beginning seed lab) = (.error e, beginning seed lab') := by
  have hlab : (inLab (evaluateAll [seed]) : Searching R T G Unit).run.run (beginning seed lab) =
      (.error e, beginning seed lab') := by
    show (((evaluateAll [seed]).run.run lab).1,
      { beginning seed lab with lab := ((evaluateAll [seed]).run.run lab).2 }) = _
    rw [h]
    rfl
  have henter : Returns (enter .initializing) (beginning seed lab) () (beginning seed lab) := rfl
  rw [launch, henter.run_bind, run_bind_error hlab]

omit [Toolchain T] [Scalar R] [RandomSource G] in
private theorem keepsBaseline_bind {β : Type} {x : Searching R T G α} {f : α → Searching R T G β}
    (hf : ∀ a, Composed Step β (f a)) (s : Search R T G) :
    (x.run.run s).2.KeepsBaseline ((x >>= f).run.run s).2 :=
  related_bind (fun _ a _ _ => hf a) Step.keepsBaseline

private theorem baseline_scoreSeed (h : lab.Evaluated seed r) (hcompiled : r.compiled = true) :
    ((scoreSeed settings seed).run.run (beginning seed lab)).2.lab.baseline = some r.baseline := by
  let s : Search R T G := { beginning seed lab with best := some (seed, Scalar.origin) }
  have hset : Returns (setBest seed Scalar.origin) (beginning seed lab) () s := rfl
  rw [scoreSeed, hset.run_bind]
  apply keepsBaseline_bind _ s
  · exact Candidate.baseline_fitness h hcompiled
  · intro fitness
    apply (composed_setBest seed fitness).then
    intro _
    apply (composed_inLab (composed_initial settings seed)).then
    intro population
    exact (composed_report _).then fun _ => .pure _

section Ends

variable {evaluate : Int → List (Candidate R) → Action T G Unit}

private theorem run_searchBy (seed : Candidate R) (lab : Lab T G) :
    (searchBy settings evaluate seed).run.run (.new lab) =
      (do
        let result ← runBy settings evaluate seed
        report (.searchFinished result)
        return result : Searching R T G _).run.run (beginning seed lab) :=
  rfl

private theorem run_searchBy_congr (h : (launch settings seed).run.run (beginning seed lab) =
      (launch settings seed).run.run (beginning seed lab')) :
    (searchBy settings evaluate seed).run.run (.new lab) =
      (searchBy settings evaluate seed).run.run (.new lab') := by
  rw [run_searchBy, run_searchBy]
  apply run_bind_congr
  exact run_bind_congr h

private theorem run_searchBy_of_error {e : Failure} {s : Search R T G}
    (h : (launch settings seed).run.run (beginning seed lab) = (.error e, s)) :
    (searchBy settings evaluate seed).run.run (.new lab) = (.error e, s) := by
  have hrun : (runBy settings evaluate seed).run.run (beginning seed lab) = (.error e, s) := by
    rw [runBy, run_bind_error h]
  rw [run_searchBy, run_bind_error hrun]

variable (hevaluate : ∀ generation population, Composed Lab.Step Unit (evaluate generation population))
include hevaluate

private theorem keepsBaseline_searchBy :
    ((launch settings seed).run.run (beginning seed lab)).2.KeepsBaseline
      ((searchBy settings evaluate seed).run.run (.new lab)).2 := by
  have hrun : ((launch settings seed).run.run (beginning seed lab)).2.KeepsBaseline
      ((runBy settings evaluate seed).run.run (beginning seed lab)).2 := by
    apply keepsBaseline_bind
    exact composed_firstGeneration settings hevaluate
  intro b hb
  rw [run_searchBy]
  apply keepsBaseline_bind _ _ b (hrun b hb)
  intro result
  exact (composed_report _).then fun _ => .pure _

end Ends

private theorem baseline_of_uncompiled [Stepwise T] (schedules : Int → List Nat)
    (h : lab.Evaluated seed r) (hno : r.compiled = false) :
    ((searchInPool schedules settings seed).run.run (.new lab)).2.lab.baseline = none := by
  have hstalls : Stalls seed (Lab.Evaluated (T := T) (G := G) seed r) := stalls_of_evaluated hno
  have hevaluate : ∀ (generation : Int) (population : List (Candidate R)),
      (∀ c ∈ population, c = seed) →
      Ends (Lab.Evaluated (T := T) (G := G) seed r)
        (evaluateAllWith settings.threads (schedules generation) population)
        (fun _ => True) fun _ => True := by
    intro generation population hpop
    exact ends_evaluateAllWith hstalls settings.threads (schedules generation) hpop
  obtain ⟨-, hlab, -⟩ := hstalls.searchBy settings hevaluate (.new lab) ⟨h, nofun⟩
  exact hlab.1

/-- A baseline at the end of a search comes from the evaluation of the seed. -/
private theorem baseline_last [Stepwise T] (schedules : Int → List Nat) {m : Memo}
    (hbase : lab.baseline = none) (hm : lab.memos[seed.memo]? = some m)
    (hconsistent : m.Consistent)
    (hfault : ∀ id fault lab', seed.evaluate.run.run lab ≠ (.error (.evaluation id fault), lab'))
    {b : Baseline}
    (hb : ((searchInPool schedules settings seed).run.run (.new lab)).2.lab.baseline = some b) :
    ∃ r lab', Returns seed.evaluate lab r lab' ∧ r.compiled = true ∧ b = r.baseline := by
  rcases hrun : seed.evaluate.run.run lab with ⟨e | r, lab'⟩
  · have he : ∀ id fault, e ≠ .evaluation id fault := by
      intro id fault he
      subst he
      exact hfault id fault lab' hrun
    have hlaunch := run_launch_of_error settings (run_evaluateAll_of_error hm hrun he)
    rw [searchInPool, run_searchBy_of_error settings hlaunch] at hb
    cases (Candidate.baseline_of_error hbase hm hrun).symm.trans hb
  · have hevaluated := Candidate.evaluated_of_returns hbase hm hconsistent hrun
    have hlaunch := run_launch settings (returns_evaluateAll hm hrun)
    refine ⟨r, lab', hrun, ?_⟩
    cases hcompiled : r.compiled with
    | true =>
      have hscored := baseline_scoreSeed settings hevaluated hcompiled
      rw [← hlaunch] at hscored
      have hlast := keepsBaseline_searchBy settings
        (fun generation population =>
          composed_evaluateAllWith settings.threads (schedules generation) population) _ hscored
      exact ⟨rfl, Option.some.inj (hb.symm.trans hlast)⟩
    | false =>
      obtain ⟨m', hm', hresult, -⟩ := hevaluated.2
      have hagain := returns_evaluateAll hm' (Candidate.returns_evaluate_of_result hm' hresult)
      rw [searchInPool, run_searchBy_congr settings (hlaunch.trans (run_launch settings hagain).symm)]
        at hb
      cases (baseline_of_uncompiled settings schedules hevaluated hcompiled).symm.trans hb

/-- Wherever a search passes, the baseline is unset or comes from the evaluation of the seed, unless
a system fault prevents that evaluation. -/
theorem baseline_of_seed [Stepwise T] (schedules : Int → List Nat) (settings : SearchSettings R)
    {m : Memo} {s : Search R T G} (hbase : lab.baseline = none)
    (hm : lab.memos[seed.memo]? = some m) (hconsistent : m.Consistent)
    (hfault : ∀ id fault lab', seed.evaluate.run.run lab ≠ (.error (.evaluation id fault), lab'))
    (h : Passes Step _ (searchInPool schedules settings seed) (.new lab) s) :
    s.lab.baseline = none ∨ ∃ r lab', Returns seed.evaluate lab r lab' ∧ r.compiled = true ∧
      s.lab.baseline = some ⟨r.passing, r.failing⟩ := by
  have hcomposed := composed_searchInPool (T := T) (G := G) settings schedules seed
  have hlast : s.KeepsBaseline _ := (h.between hcomposed Step.keepsBaseline).2
  cases hb : s.lab.baseline with
  | none => exact .inl rfl
  | some b =>
    obtain ⟨r, lab', hr, hcompiled, rfl⟩ :=
      baseline_last settings schedules hbase hm hconsistent hfault (hlast b hb)
    exact .inr ⟨r, lab', hr, hcompiled, rfl⟩

theorem baseline_of_twoFaults : ∃ s r lab',
    Passes Step _ (searchInPool TwoFaults.schedules TwoFaults.threaded TwoFaults.seed)
      (.new TwoFaults.lab) s ∧
    s.events.length = 16 ∧ Returns TwoFaults.seed.evaluate TwoFaults.lab r lab' ∧
    s.lab.baseline = some ⟨r.passing, r.failing⟩ := by
  have hconsistent : Memo.empty.Consistent := nofun
  have hfault : ∀ id fault lab', TwoFaults.seed.evaluate.run.run TwoFaults.lab ≠
      (.error (.evaluation id fault), lab') := by
    intro id fault lab' hfault
    obtain ⟨r, _, hr⟩ : ∃ r lab', Returns TwoFaults.seed.evaluate TwoFaults.lab r lab' :=
      exists_returns (by decide +kernel)
    cases hr.symm.trans hfault
  obtain ⟨result, s, hreturns, hlength, hsome⟩ : ∃ result s, Returns
      (searchInPool TwoFaults.schedules TwoFaults.threaded TwoFaults.seed) (.new TwoFaults.lab)
        result s ∧ s.events.length = 16 ∧ s.lab.baseline.isSome = true :=
    exists_returns_of (by decide +kernel)
  have hfinish : Passes Step _ (searchInPool TwoFaults.schedules TwoFaults.threaded TwoFaults.seed)
      (.new TwoFaults.lab) s := hreturns.passes
  rcases baseline_of_seed TwoFaults.schedules TwoFaults.threaded rfl rfl hconsistent hfault
    hfinish with hnone | ⟨r, lab', hr, -, hbase⟩
  · rw [hnone] at hsome
    cases hsome
  · exact ⟨s, r, lab', hfinish, hlength, hr, hbase⟩

end Search

/-! ## A seed that cannot be evaluated -/

namespace Unreadable

def rules : SimulationRules :=
  ⟨⟨[], []⟩, ⟨["x = 1\ny = 2"], []⟩, [], [("t.py::test_a", ⟨["@"], [], [], []⟩)]⟩

def seed : Candidate Quantity :=
  ⟨"prog", ["x = 1", "y = 2"], ⟨"t.py", [], [⟨"t.py", none, "test_a"⟩]⟩,
    ⟨.classic true, .structural (.ofInt 100), .ochiai, ⟨.ofInt 1, .ofInt 10⟩⟩, 0⟩

def settings : SearchSettings Quantity :=
  ⟨.ofInt 3, .ofInt 1, .ofInt 0, .ofInt 1, .ofInt 1⟩

def lab : Lab Simulation Counter :=
  ⟨.new rules, #[.empty], none, ⟨0⟩⟩

end Unreadable

namespace Search

/-- An offspring becomes the baseline of a search whose seed can never be evaluated. -/
theorem baseline_of_offspring :
    (∃ result s', Returns (search Unreadable.settings Unreadable.seed) (.new Unreadable.lab)
      result s' ∧ s'.lab.baseline = some ⟨[], ["t.py::test_a"]⟩) ∧
    ∀ (t t' : Simulation) (r : TestRun), t.rules = Unreadable.rules →
      ¬ Returns (Toolchain.runTests Unreadable.seed.program Unreadable.seed.suite) t r t' := by
  constructor
  · exact exists_returns_of (by decide +kernel)
  · intro t t' r hrules h
    have hrun := Simulation.run_runTests Unreadable.seed.program Unreadable.seed.suite t
    rw [hrules] at hrun
    cases h.symm.trans hrun

end Search

end GeneticRepair
