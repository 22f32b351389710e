import GeneticRepair.Proofs.Candidate.Exact
import GeneticRepair.Proofs.Candidate.Question
import GeneticRepair.Proofs.Toolchain.Simulation

/-!
# Bounds of fitness

If the test runs of a toolchain cover a suite, the fitness of a candidate lies between zero and a
bound that depends on the baseline alone. More passing tests are never worth less, and the bound is
reached by repairs, with positive weights by repairs only.
-/

namespace GeneticRepair

/-! ## Rewards -/

namespace Weights

variable {R K : Type} [Scalar R] [Semiring K] {w : Weights R} {size : Nat} {value : R → K}

/-- No reward fails to be computed. -/
def Total (w : Weights R) (size : Nat) : Prop :=
  ∀ kept gained, kept + gained ≤ size → ∃ x, w.reward kept gained = .ok x

def top (w : Weights R) (value : R → K) (b : Baseline) : K :=
  b.passing.length * value w.positive + b.failing.length * value w.negative

private theorem total_ofInt {positive negative : Int} :
    (⟨.ofInt positive, .ofInt negative⟩ : Weights Quantity).Total size :=
  fun _ _ _ => ⟨_, rfl⟩

end Weights

namespace TestRun

variable {R K : Type} [Scalar R] [Semiring K] [LinearOrder K] [IsStrictOrderedRing K]
  {w : Weights R} {value : R → K} {suite : TestSuite} {r r' base : TestRun} {x x' : R}

def Earns (r : TestRun) (w : Weights R) (b : Baseline) (x : R) : Prop :=
  Candidate.score w b r.passing = .ok x

private theorem Covers.exists_earns (h : r.Covers suite) (hbase : base.Covers suite)
    (htotal : w.Total suite.names.length) : ∃ x, r.Earns w base.baseline x :=
  htotal _ _ (h.gains_add_gains_le hbase)

variable (hexact : w.Exact suite.names.length value) (h : r.Covers suite)
  (hbase : base.Covers suite) (hx : r.Earns w base.baseline x)
include hexact h hbase hx

omit [IsStrictOrderedRing K] in
private theorem value_of_earns :
    value x = r.gains base.passing * value w.positive + r.gains base.failing * value w.negative :=
  hexact.reward _ _ x (h.gains_add_gains_le hbase) hx

private theorem value_nonneg : 0 ≤ value x := by
  rw [value_of_earns hexact h hbase hx]
  have hkept := mul_nonneg (Nat.cast_nonneg (r.gains base.passing)) hexact.positive
  have hgained := mul_nonneg (Nat.cast_nonneg (r.gains base.failing)) hexact.negative
  exact add_nonneg hkept hgained

private theorem value_le_top : value x ≤ w.top value base.baseline := by
  rw [value_of_earns hexact h hbase hx]
  have hkept : (r.gains base.passing : K) ≤ base.passing.length :=
    Nat.cast_le.mpr (h.gains_le base.passing)
  have hgained : (r.gains base.failing : K) ≤ base.failing.length :=
    Nat.cast_le.mpr (h.gains_le base.failing)
  apply add_le_add
  · exact mul_le_mul_of_nonneg_right hkept hexact.positive
  · exact mul_le_mul_of_nonneg_right hgained hexact.negative

private theorem value_le_of_passing_subset (h' : r'.Covers suite)
    (hx' : r'.Earns w base.baseline x')
    (hsub : r.passing ⊆ r'.passing) : value x ≤ value x' := by
  rw [value_of_earns hexact h hbase hx, value_of_earns hexact h' hbase hx']
  have hkept : (r.gains base.passing : K) ≤ r'.gains base.passing :=
    Nat.cast_le.mpr (h.gains_mono hsub base.passing)
  have hgained : (r.gains base.failing : K) ≤ r'.gains base.failing :=
    Nat.cast_le.mpr (h.gains_mono hsub base.failing)
  apply add_le_add
  · exact mul_le_mul_of_nonneg_right hkept hexact.positive
  · exact mul_le_mul_of_nonneg_right hgained hexact.negative

omit [IsStrictOrderedRing K] in
private theorem value_eq_top (hall : ∀ name ∈ suite.names, name ∈ r.passing) :
    value x = w.top value base.baseline := by
  obtain ⟨hkept, hgained⟩ := (h.gains_eq_and_gains_eq_iff hbase).mpr hall
  rw [value_of_earns hexact h hbase hx, hkept, hgained]
  rfl

private theorem passes_of_value_eq_top (hpositive : 0 < value w.positive)
    (hnegative : 0 < value w.negative)
    (htop : value x = w.top value base.baseline) : ∀ name ∈ suite.names, name ∈ r.passing := by
  rw [value_of_earns hexact h hbase hx] at htop
  have hkept := h.gains_le base.passing
  have hgained := h.gains_le base.failing
  apply (h.gains_eq_and_gains_eq_iff hbase).mp
  by_contra hne
  have hlt : r.gains base.passing < base.passing.length ∨
      r.gains base.failing < base.failing.length := by
    omega
  have hkeptValue : r.gains base.passing * value w.positive ≤
      base.passing.length * value w.positive :=
    mul_le_mul_of_nonneg_right (Nat.cast_le.mpr hkept) hpositive.le
  have hgainedValue : r.gains base.failing * value w.negative ≤
      base.failing.length * value w.negative :=
    mul_le_mul_of_nonneg_right (Nat.cast_le.mpr hgained) hnegative.le
  apply htop.not_lt
  cases hlt with
  | inl hlt =>
    apply add_lt_add_of_lt_of_le _ hgainedValue
    exact mul_lt_mul_of_pos_right (Nat.cast_lt.mpr hlt) hpositive
  | inr hlt =>
    apply add_lt_add_of_le_of_lt hkeptValue
    exact mul_lt_mul_of_pos_right (Nat.cast_lt.mpr hlt) hnegative

end TestRun

/-! ## Results that are remembered -/

/-- Runs of the tests of a suite cover it, if the program compiles. -/
def Contract.Reports {T : Type} [Toolchain T] (k : Contract T) (suite : TestSuite) : Prop :=
  ∀ p r, k.testRun p suite (.ok r) → r.compiled = true → r.Covers suite

variable {R T G K : Type} [Toolchain T]

/-- The candidate has the suite, and a memo in a laboratory of so many. -/
def Candidate.Joins (c : Candidate R) (suite : TestSuite) (size : Nat) : Prop :=
  c.suite = suite ∧ c.memo < size

/-- A result in the memo covers the suite, or is of a program that does not compile. -/
def Memo.Covers (m : Memo) (suite : TestSuite) : Prop :=
  ∀ r, m.result = some r → m.build = some r.build ∧ (r.compiled = true → r.Covers suite)

/-- All that a laboratory of the given size knows is about the suite. -/
structure Contract.Informs (k : Contract T) (suite : TestSuite) (size : Nat) (s : Lab T G) : Prop where
  valid : k.valid s.toolchain
  size : s.memos.size = size
  memos : ∀ (i : Nat) (m : Memo), s.memos[i]? = some m → m.Covers suite
  baseline : ∀ b, s.baseline = some b → ∃ r : TestRun, r.Covers suite ∧ b = r.baseline

namespace Contract

variable {k : Contract T} {suite : TestSuite} {size : Nat} {c : Candidate R} {s : Lab T G}

private theorem informs_of_empty (hvalid : k.valid s.toolchain) (hbase : s.baseline = none)
    (hempty : ∀ m ∈ s.memos, m = .empty) : k.Informs suite s.memos.size s := by
  refine ⟨hvalid, rfl, ?_, ?_⟩
  · intro i m hm r hr
    obtain rfl := hempty m (Array.mem_of_getElem? hm)
    cases hr
  · intro b hb
    cases hbase.symm.trans hb

private theorem Informs.update (h : k.Informs suite size s) {i : Nat} {m : Memo} {t : T}
    (hvalid : k.valid t) (hm : m.Covers suite) : k.Informs suite size (s.update i m t) := by
  refine ⟨hvalid, ?_, ?_, h.baseline⟩
  · rw [Lab.size_memos_update, h.size]
  · intro j n hn
    by_cases hij : i = j
    · subst hij
      simp only [Lab.update, Array.getElem?_setIfInBounds_self] at hn
      split at hn
      · obtain rfl := Option.some.inj hn
        exact hm
      · cases hn
    · rw [Lab.memos_update_of_ne hij] at hn
      exact h.memos j n hn

private theorem Informs.turn (h : k.Informs suite size s) (hreports : k.Reports suite)
    (hc : c.suite = suite) {m m' : Memo} {t' : T} (hm : s.memos[c.memo]? = some m)
    (hturn : c.Turn m s.toolchain m' t') : k.Informs suite size (s.update c.memo m' t') := by
  have hcovers := h.memos c.memo m hm
  have hcompile := (k.compile_answers c.program s.toolchain h.valid).2
  obtain ⟨hrun, hrunTests⟩ := k.runTests_answers c.program c.suite s.toolchain h.valid
  cases hturn with
  | idle => exact h.update h.valid hcovers
  | built unknown answer =>
    rw [answer] at hcompile
    apply h.update hcompile
    intro r hr
    cases unknown.2.symm.trans hr
  | unbuilt unknown answer =>
    rw [answer] at hcompile
    exact h.update hcompile hcovers
  | tested unknown unfailed answer =>
    rw [answer] at hrun hrunTests
    apply h.update hrunTests
    intro r hr
    obtain rfl := Option.some.inj hr
    rw [hc] at hrun
    exact ⟨rfl, hreports c.program _ hrun⟩
  | untested unknown unfailed answer =>
    rw [answer] at hrunTests
    exact h.update hrunTests hcovers
  | skipped unknown failed unsuccessful =>
    apply h.update h.valid
    intro r hr
    obtain rfl := Option.some.inj hr
    exact ⟨rfl, fun hcompiled => nomatch unsuccessful.symm.trans hcompiled⟩
  | recalled unknown known => cases unknown.symm.trans (hcovers _ known).1
  | summarized known => exact h.update h.valid hcovers

private theorem turnsKeep_informs (hreports : k.Reports suite) (hc : c.Joins suite size)
    (base : Option Baseline) :
    c.TurnsKeep (fun s : Lab T G => k.Informs suite size s ∧ s.baseline = base)
      fun r => r.compiled = true → r.Covers suite where
  memo := by
    intro s ⟨hs, _⟩
    have hlt : c.memo < s.memos.size := by
      rw [hs.size]
      exact hc.2
    have hm := Array.getElem?_eq_getElem hlt
    exact ⟨_, hm, fun r hr => (hs.memos c.memo _ hm r hr).2⟩
  turn := by
    intro s m m' t' ⟨hs, hbase⟩ hm hturn
    exact ⟨hs.turn hreports hc.1 hm hturn, hbase⟩

private theorem questionsKeep_informs (hreports : k.Reports suite) (hc : c.Joins suite size) :
    c.QuestionsKeep (fun s : Lab T G => k.Informs suite size s)
      fun r => r.compiled = true → r.Covers suite where
  memo := by
    intro s hs
    exact (turnsKeep_informs hreports hc s.baseline).memo s ⟨hs, rfl⟩
  turn := by
    intro s m m' t' hs hm hturn
    exact hs.turn hreports hc.1 hm hturn
  baseline := by
    intro s r hs hr hcompiled _
    refine { hs with baseline := ?_ }
    intro b hb
    exact ⟨r, hr hcompiled, (Option.some.inj hb).symm⟩

end Contract

/-! ## Scores -/

namespace Candidate

variable [Scalar R] {c : Candidate R} {s t : Lab T G} {r : TestRun} {b : Baseline} {x : R}

theorem returns_fitness (h : Returns c.evaluateCompiled? s (some r) t)
    (hb : t.baseline.getD r.baseline = b) (hx : r.Earns c.strategies.weights b x) :
    Returns c.fitness s x { t with baseline := some b } := by
  subst hb
  rw [fitness, Returns, h.run_bind, (returns_baseline t r).run_bind]
  exact Lab.returns_orFail.mpr ⟨hx, rfl⟩

theorem returns_fitness_of_none (h : Returns c.evaluateCompiled? s none t) :
    Returns c.fitness s Scalar.origin t := by
  rw [fitness, Returns, h.run_bind]
  rfl

private theorem returns_isRepair_of_none (h : Returns c.evaluateCompiled? s none t)
    (hbase : t.baseline = s.baseline) : Returns c.isRepair s false t := by
  have hget : Returns (get : Action T G _) s s s := returns_get.mpr ⟨rfl, rfl⟩
  rw [isRepair, Returns, hget.run_bind]
  cases hs : s.baseline with
  | none =>
    have hget' : Returns (get : Action T G _) t t t := returns_get.mpr ⟨rfl, rfl⟩
    simp only [Option.isNone_none, if_true]
    rw [(returns_fitness_of_none h).run_bind, hget'.run_bind, hbase, hs]
    rfl
  | some b =>
    simp only [Option.isNone_some, Bool.false_eq_true, if_false]
    rw [hget.run_bind, hs]
    dsimp only
    rw [h.run_bind]
    rfl

private theorem returns_isRepair (h : Returns c.evaluateCompiled? s (some r) t)
    (hbase : t.baseline = s.baseline) (hb : t.baseline.getD r.baseline = b)
    (hx : r.Earns c.strategies.weights b x)
    (hagain : Returns c.evaluateCompiled? { t with baseline := some b } (some r)
      { t with baseline := some b }) :
    Returns c.isRepair s (r.passing.length == b.passing.length + b.failing.length)
      { t with baseline := some b } := by
  have hget : Returns (get : Action T G _) s s s := returns_get.mpr ⟨rfl, rfl⟩
  rw [isRepair, Returns, hget.run_bind]
  cases hs : s.baseline with
  | none =>
    have hget' : Returns (get : Action T G (Lab T G)) { t with baseline := some b } _ _ :=
      returns_get.mpr ⟨rfl, rfl⟩
    simp only [Option.isNone_none, if_true]
    rw [(returns_fitness h hb hx).run_bind, hget'.run_bind]
    dsimp only
    rw [hagain.run_bind]
    rfl
  | some b' =>
    rw [hbase, hs, Option.getD_some] at hb
    subst hb
    rw [hs] at hbase
    simp only [Option.isNone_some, Bool.false_eq_true, if_false]
    rw [hget.run_bind, hs]
    dsimp only
    rw [h.run_bind, ← hbase]
    rfl

/-- What scoring a candidate comes to, of whose tests the run is, with a baseline. -/
structure Appraised {K : Type} [Semiring K] [LE K] [LT K] (c : Candidate R) (s : Lab T G)
    (value : R → K) (r : TestRun) (b : Baseline) (x : R) (t : Lab T G) : Prop where
  fitness : Returns c.fitness s x t
  baseline : t.baseline = some b
  nonneg : 0 ≤ value x
  le_top : value x ≤ c.strategies.weights.top value b
  verdict : ∃ isRepair, Returns c.isRepair s isRepair t ∧
    (isRepair = true ↔ ∀ name ∈ c.suite.names, name ∈ r.passing) ∧
    (isRepair = true → value x = c.strategies.weights.top value b) ∧
    (0 < value c.strategies.weights.positive → 0 < value c.strategies.weights.negative →
      value x = c.strategies.weights.top value b → isRepair = true)

variable {k : Contract T} {suite : TestSuite} {size : Nat}

omit [Scalar R] in
private theorem informs_of_evaluateCompiled? (hreports : k.Reports suite) (hc : c.Joins suite size)
    (hs : k.Informs suite size s) {result : Option TestRun}
    (h : Returns c.evaluateCompiled? s result t) :
    k.Informs suite size t ∧ t.baseline = s.baseline ∧ ∀ r, result = some r → r.Covers suite := by
  have hkeep := Contract.turnsKeep_informs (G := G) hreports hc s.baseline
  obtain ⟨hmeets, ht, hbase⟩ := hkeep.ends_evaluateCompiled? s ⟨hs, rfl⟩
  rw [h] at hmeets ht hbase
  refine ⟨ht, hbase, ?_⟩
  intro r hr
  obtain ⟨hcovers, hcompiled⟩ := hmeets r hr
  exact hcovers hcompiled

private theorem exists_appraised [Semiring K] [LinearOrder K] [IsStrictOrderedRing K]
    {value : R → K}
    (hreports : k.Reports suite) (hexact : c.strategies.weights.Exact suite.names.length value)
    (htotal : c.strategies.weights.Total suite.names.length) (hc : c.Joins suite size)
    (hs : k.Informs suite size s) (h : Returns c.evaluateCompiled? s (some r) t) :
    r.Covers suite ∧ ∃ (base : TestRun) (x : R) (t' : Lab T G),
      s.baseline.getD r.baseline = base.baseline ∧ base.Covers suite ∧
      r.Earns c.strategies.weights base.baseline x ∧
      c.Appraised s value r base.baseline x t' ∧ k.Informs suite size t' := by
  obtain ⟨ht, hbase, hcovers⟩ := informs_of_evaluateCompiled? hreports hc hs h
  have hr := hcovers r rfl
  have hlt : c.memo < s.memos.size := by
    rw [hs.size]
    exact hc.2
  obtain ⟨hcompiled, m, hm, hresult⟩ :=
    memo_of_evaluateCompiled? (Array.getElem?_eq_getElem hlt) h
  have hb : ∃ base : TestRun, base.Covers suite ∧ s.baseline.getD r.baseline = base.baseline := by
    cases hsome : s.baseline with
    | none => exact ⟨r, hr, rfl⟩
    | some b => exact hs.baseline b hsome
  obtain ⟨base, hbaseCovers, hb⟩ := hb
  obtain ⟨x, hx⟩ := hr.exists_earns hbaseCovers htotal
  have hb' := hb
  rw [← hbase] at hb'
  have hagain : Returns c.evaluateCompiled? { t with baseline := some base.baseline } (some r)
      { t with baseline := some base.baseline } :=
    returns_evaluateCompiled?_of_memo hm hresult (ht.memos c.memo m hm r hresult).1 hcompiled
  refine ⟨hr, base, x, _, hb, hbaseCovers, hx,
    ⟨returns_fitness h hb' hx, rfl, ?_, ?_, _, returns_isRepair h hbase hb' hx hagain, ?_, ?_, ?_⟩, ?_⟩
  · exact TestRun.value_nonneg hexact hr hbaseCovers hx
  · exact TestRun.value_le_top hexact hr hbaseCovers hx
  · rw [hc.1, beq_iff_eq]
    exact hr.length_passing_eq_iff hbaseCovers
  · intro hrepair
    rw [beq_iff_eq] at hrepair
    have hall := (hr.length_passing_eq_iff hbaseCovers).mp hrepair
    exact TestRun.value_eq_top hexact hr hbaseCovers hx hall
  · intro hpositive hnegative htop
    rw [beq_iff_eq]
    apply (hr.length_passing_eq_iff hbaseCovers).mpr
    exact TestRun.passes_of_value_eq_top hexact hr hbaseCovers hx hpositive hnegative htop
  · refine { ht with baseline := ?_ }
    intro b hsome
    exact ⟨base, hbaseCovers, (Option.some.inj hsome).symm⟩

end Candidate

namespace Question

variable [Scalar R] {k : Contract T} {suite : TestSuite} {w : Weights R}

/-- All questions are about candidates with the suite that have memos. -/
def AboutSuite (suite : TestSuite) (size : Nat) (asked : List (Question × Candidate R)) : Prop :=
  ∀ x ∈ asked, x.2.Joins suite size

private theorem informs_after {size : Nat} {s : Lab T G} {asked : List (Question × Candidate R)}
    (hreports : k.Reports suite) (hasked : AboutSuite suite size asked)
    (hs : k.Informs suite size s) : k.Informs suite size (after s asked) :=
  after_of_keep (fun x hx => Contract.questionsKeep_informs hreports (hasked x hx)) hs

private theorem baseline_after {size : Nat} {s : Lab T G} {b : Baseline}
    {asked : List (Question × Candidate R)} (hreports : k.Reports suite)
    (hasked : AboutSuite suite size asked) (hs : k.Informs suite size s)
    (hb : s.baseline = some b) : (after s asked).baseline = some b := by
  have hkeep : ∀ c : Candidate R, c.Joins suite size →
      c.QuestionsKeep (fun s : Lab T G => k.Informs suite size s ∧ s.baseline = some b)
        fun r => r.compiled = true → r.Covers suite := by
    intro c hc
    refine ⟨Contract.turnsKeep_informs hreports hc (some b), ?_⟩
    intro s r hs _ _ hnone
    cases hnone.symm.trans hs.2
  have h := after_of_keep (fun x hx => hkeep x.2 (hasked x hx)) ⟨hs, hb⟩
  exact h.2

/-- Whatever has been asked about candidates of the suite, a candidate of it that compiles and can be
evaluated has a fitness between zero and what the baseline allows; it is a repair just if it passes
every test, and then, with positive weights only then, it is as fit as possible. With more passing
tests it would not be less fit. Any other candidate has no fitness, is no repair and sets no
baseline. -/
theorem fitness_bounded [Semiring K] [LinearOrder K] [IsStrictOrderedRing K] {value : R → K}
    {lab : Lab T G} {asked : List (Question × Candidate R)} (hreports : k.Reports suite)
    (hexact : w.Exact suite.names.length value) (htotal : w.Total suite.names.length)
    (hvalid : k.valid lab.toolchain) (hbase : lab.baseline = none)
    (hempty : ∀ m ∈ lab.memos, m = .empty) (hasked : AboutSuite suite lab.memos.size asked)
    (c : Candidate R) (hc : c.Joins suite lab.memos.size) (hw : c.strategies.weights = w) :
    let s := after lab asked
    (∀ t, Returns c.evaluateCompiled? s none t → Returns c.fitness s Scalar.origin t ∧
      value Scalar.origin = 0 ∧ Returns c.isRepair s false t ∧ t.baseline = s.baseline) ∧
    ∀ r t, Returns c.evaluateCompiled? s (some r) t →
      ∃ (b : Baseline) (x : R) (t' : Lab T G),
        s.baseline.getD r.baseline = b ∧ c.Appraised s value r b x t' ∧
        ∀ later : List (Question × Candidate R), AboutSuite suite lab.memos.size later →
          ∀ d : Candidate R, d.Joins suite lab.memos.size → d.strategies.weights = w →
          ∀ r' u, Returns d.evaluateCompiled? (after t' later) (some r') u →
            ∃ (x' : R) (u' : Lab T G), d.Appraised (after t' later) value r' b x' u' ∧
              (r.passing ⊆ r'.passing → value x ≤ value x') ∧
              (r'.passing ⊆ r.passing → value x' ≤ value x) := by
  intro s
  subst hw
  have hs : k.Informs suite lab.memos.size s :=
    informs_after hreports hasked (Contract.informs_of_empty hvalid hbase hempty)
  constructor
  · intro t ht
    obtain ⟨-, hsame, -⟩ := Candidate.informs_of_evaluateCompiled? hreports hc hs ht
    exact ⟨Candidate.returns_fitness_of_none ht, hexact.origin,
      Candidate.returns_isRepair_of_none ht hsame, hsame⟩
  · intro r t ht
    obtain ⟨hr, base, x, t', hb, hcovers, hx, happraised, ht'⟩ :=
      Candidate.exists_appraised hreports hexact htotal hc hs ht
    refine ⟨base.baseline, x, t', hb, happraised, ?_⟩
    intro later hlater d hd hdw r' u hu
    have hlaterBase := baseline_after hreports hlater ht' happraised.baseline
    rw [← hdw] at hexact htotal hx
    obtain ⟨hr', base', x', u', hb', hcovers', hx', happraised', -⟩ :=
      Candidate.exists_appraised hreports hexact htotal hd (informs_after hreports hlater ht') hu
    rw [hlaterBase, Option.getD_some] at hb'
    rw [← hb'] at happraised' hx'
    refine ⟨x', u', happraised', ?_, ?_⟩
    · intro hsub
      exact TestRun.value_le_of_passing_subset hexact hr hcovers hx hr' hx' hsub
    · intro hsub
      exact TestRun.value_le_of_passing_subset hexact hr' hcovers hx' hr hx hsub

end Question

private theorem Simulation.reports_contract (rules : SimulationRules) (suite : TestSuite) :
    (Simulation.contract rules).Reports suite := by
  intro p r hr hcompiled
  have hr' : .ok r = Simulation.tested rules p suite := hr
  rw [Simulation.tested] at hr'
  cases hbuild : Simulation.build rules rules.run p with
  | error e =>
    rw [hbuild, Except.map] at hr'
    cases hr'
  | ok outcome =>
    rw [hbuild, Except.map] at hr'
    cases hr'
    have hsuccessful : outcome.successful = true := hcompiled
    simp only [hsuccessful, if_true] at hr ⊢
    exact ⟨(Simulation.names_run p suite).1, (Simulation.names_run p suite).2⟩

namespace WrongSum

def corrected : Candidate Quantity :=
  { seed with lines := ["def add(a, b):", "    return a + b"], memo := 1 }

def pairLab : Lab Simulation Unit :=
  ⟨.new rules, #[.empty, .empty], none, ()⟩

end WrongSum

namespace Question

/-- After the seed has been scored, its correction is as fit as possible. -/
theorem fitness_bounded_of_wrongSum :
    ∃ r b x t', WrongSum.corrected.Appraised (after WrongSum.pairLab [(.fitness, WrongSum.seed)])
      Quantity.intValue r b x t' ∧ Quantity.intValue x = 10 := by
  have hseed : AboutSuite WrongSum.seed.suite WrongSum.pairLab.memos.size
      [(.fitness, WrongSum.seed)] := by
    intro x hx
    obtain rfl := List.mem_singleton.mp hx
    exact ⟨rfl, by decide⟩
  have hempty : ∀ m ∈ WrongSum.pairLab.memos, m = .empty := by
    intro m hm
    simpa [WrongSum.pairLab] using hm
  have hvalid : (Simulation.contract WrongSum.rules).valid WrongSum.pairLab.toolchain := rfl
  obtain ⟨-, hscored⟩ := fitness_bounded (Simulation.reports_contract WrongSum.rules _)
    (Weights.exact_ofInt (by decide) (by decide)) Weights.total_ofInt hvalid rfl hempty hseed
    WrongSum.corrected ⟨rfl, by decide⟩ rfl
  obtain ⟨b, x, t', -, happraised, -⟩ := hscored _ _ rfl
  refine ⟨_, b, x, t', happraised, ?_⟩
  rw [(happraised.fitness.eq rfl).1]
  rfl

end Question

end GeneticRepair
