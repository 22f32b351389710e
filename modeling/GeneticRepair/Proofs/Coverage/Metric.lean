import GeneticRepair.Coverage.Metric
import GeneticRepair.Proofs.Coverage.Spectra
import GeneticRepair.Proofs.Number.Exact
import GeneticRepair.Proofs.Outcome

/-!
# Suspiciousness in exact arithmetic

Read over the real numbers, every metric is a formula over the row of a line, built from shares of
the tests. The formula has a value for each line that a failing test executed, between zero and one.
It never falls when more failing and fewer passing tests execute the line.
-/

namespace GeneticRepair

variable {r r' : SpectrumRow ℝ}

/-! ## Shares -/

noncomputable def share (x y : ℝ) : ℝ :=
  x / (x + y)

variable {x x' y y' : ℝ}

private theorem share_mem_Ioc (hx : 0 < x) (hy : 0 ≤ y) : share x y ∈ Set.Ioc 0 1 := by
  have hsum : 0 < x + y := by positivity
  exact ⟨div_pos hx hsum, (div_le_one hsum).mpr (le_add_of_nonneg_right hy)⟩

private theorem share_nonneg (hx : 0 ≤ x) (hy : 0 ≤ y) : 0 ≤ share x y :=
  div_nonneg hx (add_nonneg hx hy)

private theorem share_mono (hx : 0 ≤ x) (hxx' : x ≤ x') (hy : 0 ≤ y') (hyy' : y' ≤ y) :
    share x y ≤ share x' y' := by
  rcases hx.eq_or_lt with rfl | hpos
  · rw [share, zero_div]
    exact share_nonneg hxx' hy
  · have hpos' : 0 < x' := hpos.trans_le hxx'
    rw [share, share, div_le_div_iff₀ (by linarith) (by linarith)]
    nlinarith [mul_le_mul hxx' hyy' hy hpos'.le]

/-! ## Formulas -/

/-- No count is negative, and some failing test executed the line of the row. -/
structure SpectrumRow.Suspicious (r : SpectrumRow ℝ) : Prop where
  ep : 0 ≤ r.ep
  ef : 0 < r.ef
  np : 0 ≤ r.np
  nf : 0 ≤ r.nf

/-- The evidence against the line of the first row is no stronger: of as many tests, no more failing
and no fewer passing ones executed it. -/
structure SpectrumRow.NoStronger (r r' : SpectrumRow ℝ) : Prop where
  ep : r'.ep ≤ r.ep
  ef : r.ef ≤ r'.ef
  passing : r.ep + r.np = r'.ep + r'.np
  failing : r.ef + r.nf = r'.ef + r'.nf

namespace Metric

noncomputable def formula (r : SpectrumRow ℝ) : Metric → ℝ
  | genprog => if r.ep = 0 then 1 else 1 / 10
  | jaccard => share r.ef (r.nf + r.ep)
  | ochiai => √(share r.ef r.nf * share r.ef r.ep)
  | tarantula => share (share r.ef r.nf) (share r.ep r.np)

private theorem isZero_real {x : ℝ} : isZero x = true ↔ x = 0 := by
  rw [isZero, Scalar.same_real, Scalar.zero_real]

private theorem formula_ochiai (h : 0 ≤ r.ef) :
    ochiai.formula r = r.ef / √((r.ef + r.nf) * (r.ef + r.ep)) := by
  rw [formula, share, share, div_mul_div_comm, Real.sqrt_div (mul_self_nonneg _),
    Real.sqrt_mul_self h]

private theorem score_tarantula (h : r.ef + r.nf ≠ 0) :
    tarantula.score r = Scalar.div (share r.ef r.nf) (share r.ef r.nf + share r.ep r.np) := by
  rw [score, Scalar.add_real, Scalar.add_real]
  change (Scalar.div r.ef (r.ef + r.nf) >>= fun failing =>
    if isZero (r.ep + r.np) then Scalar.div failing (failing + Scalar.origin)
    else Scalar.div r.ep (r.ep + r.np) >>= fun passing =>
      Scalar.div failing (failing + passing)) = _
  rw [Scalar.div_real h]
  change (if isZero (r.ep + r.np) then
      Scalar.div (share r.ef r.nf) (share r.ef r.nf + Scalar.origin)
    else Scalar.div r.ep (r.ep + r.np) >>= fun passing =>
      Scalar.div (share r.ef r.nf) (share r.ef r.nf + passing)) = _
  by_cases hzero : r.ep + r.np = 0
  · rw [if_pos (isZero_real.mpr hzero), Scalar.origin_real, share.eq_1 r.ep, hzero, div_zero]
  · rw [if_neg (mt isZero_real.mp hzero), Scalar.div_real hzero]
    rfl

private theorem score_eq (h : r.Suspicious) (metric : Metric) :
    metric.score r = .ok (metric.formula r) := by
  obtain ⟨hep, hef, hnp, hnf⟩ := h
  cases metric with
  | genprog =>
    have hratio (n : Int) (hn : n ≠ 0) : Scalar.ratio 1 n = .ok (1 / n : ℝ) := by
      rw [Scalar.ratio, Scalar.div_real (by simpa [Scalar.ofInt_real] using hn), Scalar.ofInt_real,
        Scalar.ofInt_real, Int.cast_one]
    rw [score, formula, hratio 1 one_ne_zero, hratio 10 (by decide)]
    by_cases hzero : r.ep = 0
    · rw [if_pos (isZero_real.mpr hzero), if_pos hzero, Int.cast_one, div_one]
    · rw [if_neg (mt isZero_real.mp hzero), if_neg hzero, Int.cast_ofNat]
  | jaccard =>
    change Scalar.div r.ef (r.ef + r.nf + r.ep) = _
    rw [Scalar.div_real (by positivity), formula, share, add_assoc]
  | ochiai =>
    change (do Scalar.div r.ef (← Scalar.sqrt ((r.ef + r.nf) * (r.ef + r.ep)))) = _
    rw [Scalar.sqrt_real (by positivity)]
    change Scalar.div r.ef √((r.ef + r.nf) * (r.ef + r.ep)) = _
    rw [Scalar.div_real (by positivity), formula_ochiai hef.le]
  | tarantula =>
    have hfailing : 0 < share r.ef r.nf := (share_mem_Ioc hef hnf).1
    have hpassing : 0 ≤ share r.ep r.np := share_nonneg hep hnp
    exact (score_tarantula (by positivity)).trans (Scalar.div_real (by positivity))

private theorem formula_mem_Ioc (h : r.Suspicious) (metric : Metric) :
    metric.formula r ∈ Set.Ioc 0 1 := by
  obtain ⟨hep, hef, hnp, hnf⟩ := h
  cases metric with
  | genprog =>
    rw [formula]
    split
    · exact ⟨one_pos, le_rfl⟩
    · exact ⟨by norm_num, by norm_num⟩
  | jaccard => exact share_mem_Ioc hef (add_nonneg hnf hep)
  | ochiai =>
    obtain ⟨hpos, hle⟩ := share_mem_Ioc hef hnf
    obtain ⟨hpos', hle'⟩ := share_mem_Ioc hef hep
    exact ⟨Real.sqrt_pos.mpr (mul_pos hpos hpos'),
      Real.sqrt_le_one.mpr (mul_le_one₀ hle hpos'.le hle')⟩
  | tarantula => exact share_mem_Ioc (share_mem_Ioc hef hnf).1 (share_nonneg hep hnp)

/-- A score does not fall when, of as many tests, more failing and fewer passing ones execute the
line. -/
theorem formula_mono (h : r.Suspicious) (h' : r'.Suspicious) (hle : r.NoStronger r') (metric : Metric) :
    metric.formula r ≤ metric.formula r' := by
  obtain ⟨hep, hef, hpassing, hfailing⟩ := hle
  have hnf : r'.nf ≤ r.nf := by linarith
  have hnp : r.np ≤ r'.np := by linarith
  have hfraction : share r.ef r.nf ≤ share r'.ef r'.nf := share_mono h.ef.le hef h'.nf hnf
  cases metric with
  | genprog =>
    have hzero : r.ep = 0 → r'.ep = 0 := fun hzero => le_antisymm (hzero ▸ hep) h'.ep
    rw [formula, formula]
    split_ifs with hr hr' hr'
    · exact le_rfl
    · exact absurd (hzero hr) hr'
    · norm_num
    · exact le_rfl
  | jaccard => exact share_mono h.ef.le hef (add_nonneg h'.nf h'.ep) (add_le_add hnf hep)
  | ochiai =>
    exact Real.sqrt_le_sqrt (mul_le_mul hfraction (share_mono h.ef.le hef h'.ep hep)
      (share_nonneg h.ef.le h.ep) (share_nonneg h'.ef.le h'.nf))
  | tarantula =>
    exact share_mono (share_nonneg h.ef.le h.nf) hfraction (share_nonneg h'.ep h'.np)
      (share_mono h'.ep hep h.np hnp)

end Metric

/-! ## Localizations -/

private theorem Localization.ofScores_of_pos {scores : List (Int × ℝ)}
    (hsorted : (scores.map Prod.fst).Pairwise (· < ·)) (hpos : ∀ e ∈ scores, 0 < e.2) :
    ofScores scores = .ok ⟨scores⟩ := by
  have hknown : Entries.ofList scores = scores :=
    Entries.ofList_eq_self (hsorted.imp fun hlt => hlt.ne)
  have hnegative : (scores.any fun e => Scalar.less e.2 Scalar.origin) = false := by
    rw [List.any_eq_false]
    intro e he
    rw [Scalar.less_real, Scalar.origin_real]
    exact (hpos e he).not_gt
  have hkept : scores.filter (fun e => isSuspicious e.2) = scores := by
    rw [List.filter_eq_self]
    intro e he
    rw [isSuspicious, Scalar.less_real, Scalar.origin_real]
    exact hpos e he
  simp only [ofScores]
  rw [hknown, hnegative, hkept, Sorted.ofEntries_eq_self hsorted]
  rfl

/-- Every line that is scored has the row of a suspicious one. -/
def Spectra.Scorable (s : Spectra) : Prop :=
  ∀ line ∈ s.lines, (s.row line).ef ≠ 0 → ((s.row line).map Scalar.ofInt).Suspicious

namespace Metric

noncomputable def exactScores (metric : Metric) (s : Spectra) : List (Int × ℝ) :=
  (s.lines.filter fun line => (s.row line).ef != 0).map fun line =>
    (line, metric.formula ((s.row line).map Scalar.ofInt))

variable {s : Spectra}

private theorem keys_exactScores (metric : Metric) (s : Spectra) :
    (metric.exactScores s).map Prod.fst = s.lines.filter fun line => (s.row line).ef != 0 := by
  rw [exactScores, List.map_map]
  exact List.map_id _

private theorem mem_Ioc_of_mem_exactScores {metric : Metric} {e : Int × ℝ} (h : s.Scorable)
    (he : e ∈ metric.exactScores s) : e.2 ∈ Set.Ioc 0 1 := by
  obtain ⟨line, hline, rfl⟩ := List.mem_map.mp he
  obtain ⟨hmem, hef⟩ := List.mem_filter.mp hline
  exact formula_mem_Ioc (h line hmem (bne_iff_ne.mp hef)) metric

private theorem isZero_ofInt (n : Int) : isZero (Scalar.ofInt n : ℝ) = (n == 0) := by
  rw [Bool.eq_iff_iff, isZero_real, beq_iff_eq]
  exact Int.cast_eq_zero

/-- The formula has a value for every line that is scored. -/
theorem scores_eq (h : s.Scorable) (metric : Metric) :
    metric.scores Scalar.ofInt s = .ok (metric.exactScores s) := by
  have hfilter : ((s.lines.map fun line => (line, (s.row line).map (Scalar.ofInt (R := ℝ)))).filter
      fun e => !isZero e.2.ef) =
        (s.lines.filter fun line => (s.row line).ef != 0).map fun line =>
          (line, (s.row line).map Scalar.ofInt) := by
    rw [List.filter_map]
    congr 1
    exact List.filter_congr fun line _ => congrArg (!·) (isZero_ofInt (s.row line).ef)
  rw [scores, hfilter, List.mapM_map, exactScores]
  refine mapM_eq_ok fun line hline => ?_
  obtain ⟨hmem, hef⟩ := List.mem_filter.mp hline
  change (do return (line, ← metric.score ((s.row line).map Scalar.ofInt))) = _
  rw [score_eq (h line hmem (bne_iff_ne.mp hef))]
  rfl

private theorem localize_eq (h : s.Scorable) (metric : Metric) :
    metric.localize s = .ok ⟨metric.exactScores s⟩ := by
  have hsorted : ((metric.exactScores s).map Prod.fst).Pairwise (· < ·) := by
    rw [keys_exactScores]
    exact s.pairwise_lines.filter _
  have hpos : ∀ e ∈ metric.exactScores s, 0 < e.2 := fun e he =>
    (mem_Ioc_of_mem_exactScores h he).1
  rw [localize, localizeWith, scores_eq h metric]
  simp only [Localization.ofScores_of_pos hsorted hpos]
  rfl

end Metric

/-! ## Coverage -/

section Coverage

variable {N : Type} {m : CoverageMap N} {row : SpectrumRow} {line : Int}

private theorem SpectrumRow.Counts.ef_ne_zero_iff (h : row.Counts m line) :
    row.ef ≠ 0 ↔ m.Executed false line := by
  rw [← m.executions_pos_iff, h.ef]
  omega

private theorem SpectrumRow.Counts.suspicious (h : row.Counts m line)
    (hexecuted : m.Executed false line) :
    (row.map Scalar.ofInt).Suspicious := by
  have hef := h.ef_ne_zero_iff.mpr hexecuted
  have hnonneg := h.nonneg
  simp only [toList, List.forall_mem_cons] at hnonneg
  obtain ⟨hep, hnonneg, hnp, hnf, -⟩ := hnonneg
  exact ⟨Int.cast_nonneg hep, Int.cast_pos.mpr (by omega), Int.cast_nonneg hnp,
    Int.cast_nonneg hnf⟩

private theorem SpectrumRow.Counts.noStronger {row' : SpectrumRow} {line' : Int}
    (h : row.Counts m line)
    (h' : row'.Counts m line') (hef : m.executions false line ≤ m.executions false line')
    (hep : m.executions true line' ≤ m.executions true line) :
    (row.map Scalar.ofInt).NoStronger (row'.map Scalar.ofInt) where
  ep := by
    refine Int.cast_le.mpr ?_
    rw [h.ep, h'.ep]
    exact Int.ofNat_le.mpr hep
  ef := by
    refine Int.cast_le.mpr ?_
    rw [h.ef, h'.ef]
    exact Int.ofNat_le.mpr hef
  passing := by
    change (row.ep : ℝ) + row.np = row'.ep + row'.np
    exact_mod_cast h.passing.trans h'.passing.symm
  failing := by
    change (row.ef : ℝ) + row.nf = row'.ef + row'.nf
    exact_mod_cast h.failing.trans h'.failing.symm

private theorem CoverageMap.executions_mono {verdict : Bool} {a b : Int}
    (h : ∀ c ∈ m.tests, c.successful = verdict → a ∈ c.lines → b ∈ c.lines) :
    m.executions verdict a ≤ m.executions verdict b := by
  refine List.countP_mono_left fun c hc hcount => ?_
  simp only [TestCoverage.contains, Bool.and_eq_true, beq_iff_eq, List.contains_iff_mem] at hcount ⊢
  exact ⟨hcount.1, h c hc hcount.1 hcount.2⟩

private theorem CoverageMap.Ascending.nodup (h : m.Ascending) : ∀ c ∈ m.tests, c.lines.Nodup :=
  fun c hc => (h c hc).imp fun hlt => hlt.ne

private theorem Spectra.scorable_ofCoverage (h : m.Ascending) : (ofCoverage m).Scorable := by
  intro line _ hef
  have hcounts := counts_row h.nodup line
  exact hcounts.suspicious (hcounts.ef_ne_zero_iff.mp hef)

namespace Metric

private theorem mem_keys_exactScores (h : m.Ascending) (metric : Metric) :
    line ∈ (metric.exactScores (Spectra.ofCoverage m)).map Prod.fst ↔ m.Executed false line := by
  rw [keys_exactScores, List.mem_filter, bne_iff_ne,
    (Spectra.counts_row h.nodup line).ef_ne_zero_iff, Spectra.mem_lines_iff]
  exact and_iff_right_of_imp fun ⟨c, hc, _, hline⟩ => ⟨c, hc, hline⟩

private theorem lookup_exactScores (h : m.Ascending) (metric : Metric)
    (hexecuted : m.Executed false line) :
    (metric.exactScores (Spectra.ofCoverage m)).lookup line =
      some (metric.formula (((Spectra.ofCoverage m).row line).map Scalar.ofInt)) := by
  have hmem := (mem_keys_exactScores h metric).mpr hexecuted
  rw [keys_exactScores] at hmem
  exact List.lookup_graph _ hmem

/-- The rows of spectra count the tests of the map, and their lines are those of the tests. So every
metric scores just the lines that some failing test executed, and each score is positive and at most
one. -/
theorem spectra_count_and_score (h : m.Ascending) :
    (∀ line, ((Spectra.ofCoverage m).row line).Counts m line) ∧
      (Spectra.ofCoverage m).lines.Pairwise (· < ·) ∧
      (∀ line, line ∈ (Spectra.ofCoverage m).lines ↔ ∃ c ∈ m.tests, line ∈ c.lines) ∧
      ∀ metric : Metric, ∃ l : Localization ℝ,
        metric.localize (Spectra.ofCoverage m) = .ok l ∧
          (∀ line, line ∈ l.lines ↔ m.Executed false line) ∧
          ∀ score ∈ l.scores.map Prod.snd, score ∈ Set.Ioc 0 1 := by
  refine ⟨Spectra.counts_row h.nodup, Spectra.pairwise_lines _, fun line => Spectra.mem_lines_iff,
    fun metric => ?_⟩
  have hscorable := Spectra.scorable_ofCoverage h
  refine ⟨_, localize_eq hscorable metric, fun line => mem_keys_exactScores h metric, ?_⟩
  intro score hscore
  obtain ⟨e, he, rfl⟩ := List.mem_map.mp hscore
  exact mem_Ioc_of_mem_exactScores hscorable he

def threeTests : CoverageMap :=
  ⟨[("a", ⟨"a", .instant false, [1, 2]⟩), ("b", ⟨"b", .instant true, [1, 3]⟩),
    ("c", ⟨"c", .instant false, [2]⟩)]⟩

private theorem ascending_threeTests : threeTests.Ascending := by
  decide

theorem spectra_of_three_tests :
    (Spectra.ofCoverage threeTests).row 1 = ⟨1, 1, 0, 1⟩ ∧
      ((Spectra.ofCoverage threeTests).row 1).Counts threeTests 1 ∧
      ∃ l : Localization ℝ, tarantula.localize (Spectra.ofCoverage threeTests) = .ok l ∧
        1 ∈ l.lines ∧ 3 ∉ l.lines ∧ ∀ score ∈ l.scores.map Prod.snd, score ∈ Set.Ioc 0 1 := by
  obtain ⟨hcounts, -, -, hmetric⟩ := spectra_count_and_score ascending_threeTests
  obtain ⟨l, hl, hlines, hscores⟩ := hmetric tarantula
  exact ⟨by decide, hcounts 1, l, hl, (hlines 1).mpr (by decide), mt (hlines 3).mp (by decide),
    hscores⟩

/-- A line that more failing and fewer passing tests executed, test by test, than another one has no
lower score. -/
theorem score_le_of_executed (h : m.Ascending) {a b : Int} (hb : m.Executed false b)
    (hfailing : ∀ c ∈ m.tests, c.successful = false → b ∈ c.lines → a ∈ c.lines)
    (hpassing : ∀ c ∈ m.tests, c.successful = true → a ∈ c.lines → b ∈ c.lines)
    (metric : Metric) :
    ∃ l : Localization ℝ, metric.localize (Spectra.ofCoverage m) = .ok l ∧ l.score b ≤ l.score a := by
  have ha : m.Executed false a := by
    obtain ⟨c, hc, hverdict, hline⟩ := hb
    exact ⟨c, hc, hverdict, hfailing c hc hverdict hline⟩
  refine ⟨_, localize_eq (Spectra.scorable_ofCoverage h) metric, ?_⟩
  rw [Localization.score, Localization.score, lookup_exactScores h metric ha,
    lookup_exactScores h metric hb]
  have hrowa := Spectra.counts_row h.nodup a
  have hrowb := Spectra.counts_row h.nodup b
  exact formula_mono (hrowb.suspicious hb) (hrowa.suspicious ha)
    (hrowb.noStronger hrowa (m.executions_mono hfailing) (m.executions_mono hpassing)) metric

theorem score_le_in_three_tests : threeTests.Executed false 1 ∧
    ∃ l : Localization ℝ, ochiai.localize (Spectra.ofCoverage threeTests) = .ok l ∧
      l.score 1 ≤ l.score 2 := by
  have hexecuted : threeTests.Executed false 1 := by decide
  exact ⟨hexecuted, score_le_of_executed ascending_threeTests hexecuted (by decide) (by decide)
    ochiai⟩

end Metric

end Coverage

end GeneticRepair
