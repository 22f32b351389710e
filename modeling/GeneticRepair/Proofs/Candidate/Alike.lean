import GeneticRepair.Proofs.Candidate.Settling
import GeneticRepair.Proofs.Candidate.Variation

/-!
# Candidates in laboratories that are alike

What is asked of a candidate has the same answer in laboratories that are alike, and they stay
alike, for the state of a steady toolchain cannot be told from its answers.
-/

namespace GeneticRepair

variable {R T G α : Type} [Toolchain T] [Stepwise T] {seed c : Candidate R}
  {k : Steady T seed.suite} {w : Ledger}

private theorem map_eq_map_cases {β : Type} {f : α → β} {o o' : Option α} (h : o'.map f = o.map f) :
    (o = none ∧ o' = none) ∨ ∃ a a', o = some a ∧ o' = some a' ∧ f a' = f a := by
  cases o with
  | none => exact .inl ⟨rfl, by simpa using h⟩
  | some a =>
    obtain ⟨a', ha', heq⟩ := Option.map_eq_some_iff.mp h
    exact .inr ⟨a, a', rfl, ha', heq⟩

theorem Alike.exists_gist {s s' : Lab T G} (h : Alike k w s s') (hc : seed.Enrolled w c) :
    ∃ g, s.gist? c.memo = some g ∧ s'.gist? c.memo = some g := by
  have hlt : c.memo < s.memos.size := by
    rw [h.size]
    exact (List.getElem?_eq_some_iff.mp hc.owner).1
  have hg : s.gist? c.memo = some s.memos[c.memo].gist := by
    rw [Lab.gist?, Array.getElem?_eq_getElem hlt, Option.map_some]
  exact ⟨_, hg, by rw [h.gist?_eq, hg]⟩

namespace Lab

private theorem mirrors_memo (i : Nat) :
    Mirrors (Alike (G := G) k) w (memo i) (memo i) fun w' m m' => w' = w ∧ m'.gist = m.gist := by
  refine mirrors_of_returns fun s s' hs => ?_
  refine ⟨_, s, _, s', returns_get_bind.mpr (returns_pure.mpr ⟨rfl, rfl⟩),
    returns_get_bind.mpr (returns_pure.mpr ⟨rfl, rfl⟩), w, le_rfl, hs, rfl, ?_⟩
  rcases map_eq_map_cases (hs.gist?_eq i) with ⟨hm, hm'⟩ | ⟨m, m', hm, hm', hgist⟩
  · rw [hm, hm']
  · rw [hm, hm']
    exact hgist

private theorem mirrors_setMemo (i : Nat) {m m' : Memo} (h : m'.gist = m.gist) :
    Mirrors (Alike (G := G) k) w (setMemo i m) (setMemo i m') (Same fun w' _ => w' = w) := by
  refine mirrors_of_returns fun s s' hs => ?_
  refine ⟨(), _, (), _, returns_modify.mpr rfl, returns_modify.mpr rfl, w, le_rfl, ?_, rfl, rfl⟩
  refine { hs with
    size := by simpa using hs.size, size' := by simpa using hs.size', gist?_eq := ?_ }
  intro j
  rw [gist?_setMemos, gist?_setMemos, hs.gist?_eq, h]

private theorem repeats_newMemo (p : Program) :
    Repeats (Alike (G := G) k) w newMemo fun w' i => w'.owners[i]? = some (some p) := by
  refine mirrors_of_returns fun s s' hs => ?_
  have hsize : s'.memos.size = s.memos.size := hs.size'.trans hs.size.symm
  have hpush : ∀ (s : Lab T G) i, ({ s with memos := s.memos.push .empty } : Lab T G).gist? i =
      if i = s.memos.size then some Memo.empty.gist else s.gist? i := by
    intro s i
    unfold gist?
    rw [Array.getElem?_push]
    by_cases hi : i = s.memos.size
    · rw [if_pos hi, if_pos hi]
      rfl
    · rw [if_neg hi, if_neg hi]
  refine ⟨_, _, _, _, returns_modifyGet.mpr rfl, returns_modifyGet.mpr rfl,
    { w with owners := w.owners ++ [some p] }, ⟨List.prefix_append .., fun _ h => h⟩, ?_, hsize, ?_⟩
  · refine { hs with size := by simp [hs.size], size' := by simp [hs.size'], gist?_eq := ?_ }
    intro i
    rw [hpush, hpush, hs.gist?_eq, hsize]
  · simp [hs.size]

private theorem mirrors_use_compile (p : Program) :
    Mirrors (Alike (G := G) k) w (use (Toolchain.compile p)) (use (Toolchain.compile p))
      fun w' r r' => w' = w ∧ ∃ outcome outcome', r = .ok outcome ∧ r' = .ok outcome' ∧
        outcome'.successful = outcome.successful := by
  refine mirrors_of_returns fun s s' hs => ?_
  obtain ⟨outcome, t, hret, ht, houtcome⟩ := k.compile_returns p s.toolchain hs.valid
  obtain ⟨outcome', t', hret', ht', houtcome'⟩ := k.compile_returns p s'.toolchain hs.valid'
  refine ⟨_, _, _, _, returns_use hret, returns_use hret', w, le_rfl,
    { hs with valid := ht, valid' := ht' }, rfl, outcome, outcome', rfl, rfl, ?_⟩
  rw [houtcome', houtcome]

private theorem repeats_draw (act : StateM G α) :
    Repeats (Alike k) w (draw act : Action T G α) fun w' _ => w' = w := by
  refine mirrors_of_returns fun s s' hs => ?_
  refine ⟨_, _, _, _, returns_modifyGet.mpr rfl, returns_modifyGet.mpr rfl, w, le_rfl, ?_, ?_, rfl⟩
  · exact { hs with random_eq := by rw [hs.random_eq] }
  · rw [hs.random_eq]

private theorem mirrors_getBaseline :
    Mirrors (Alike k) w (get : Action T G (Lab T G)) get
      fun w' s s' => w' = w ∧ s'.baseline = s.baseline := by
  refine mirrors_of_returns fun s s' hs => ?_
  exact ⟨s, s, s', s', returns_get.mpr ⟨rfl, rfl⟩, returns_get.mpr ⟨rfl, rfl⟩, w, le_rfl, hs, rfl,
    hs.baseline_eq⟩

end Lab

namespace Candidate

/-! ## Evaluation -/

private theorem mirrors_rememberBuild {m m' : Memo} {build build' : BuildOutcome}
    (hm : m'.gist = m.gist)
    (hbuild : build'.successful = build.successful) :
    Mirrors (Alike (G := G) k) w (c.rememberBuild m build) (c.rememberBuild m' build')
      (Same fun w' _ => w' = w) := by
  have hgist : ({ m' with build := some build' } : Memo).gist =
      ({ m with build := some build } : Memo).gist := by
    obtain ⟨-, hresult, hspectra⟩ := Gist.mk.inj hm
    simp only [Memo.gist, Option.map_some, hbuild, hresult, hspectra]
  refine (Lab.mirrors_setMemo c.memo hgist).bind ?_
  rintro _ _ _ _ ⟨rfl, rfl⟩
  exact mirrors_pure ⟨hbuild, rfl⟩

private theorem repeats_isCompilable :
    Repeats (Alike (G := G) k) w c.isCompilable fun w' _ => w' = w := by
  refine (Lab.mirrors_memo c.memo).bind ?_
  rintro _ m m' _ ⟨rfl, hm⟩
  obtain ⟨hbuild, hresult, -⟩ := Gist.mk.inj hm
  rcases map_eq_map_cases hbuild with ⟨hb, hb'⟩ | ⟨b, b', hb, hb', hsuccessful⟩
  · rcases map_eq_map_cases hresult with ⟨hr, hr'⟩ | ⟨r, r', hr, hr', hgist⟩
    · simp only [hb, hb', hr, hr']
      refine (Lab.mirrors_use_compile c.program).bind ?_
      rintro _ _ _ _ ⟨rfl, outcome, outcome', rfl, rfl, hsuccessful⟩
      exact mirrors_rememberBuild hm hsuccessful
    · simp only [hb, hb', hr, hr']
      exact mirrors_rememberBuild hm (congrArg Prod.fst hgist)
  · simp only [hb, hb', hsuccessful]
    exact repeats_pure rfl

private theorem mirrors_evaluate? (hc : seed.Enrolled w c) :
    Mirrors (Alike (G := G) k) w c.evaluate? c.evaluate?
      fun w' r r' => w' = w ∧ r'.map TestRun.gist = r.map TestRun.gist := by
  refine mirrors_of_returns fun s s' hs => ?_
  obtain ⟨g, hg, hg'⟩ := hs.exists_gist hc
  obtain ⟨r, t, hret, hsettled, hr⟩ := returns_evaluate? hc.suite hs.valid hg
  obtain ⟨r', t', hret', hsettled', hr'⟩ := returns_evaluate? hc.suite hs.valid' hg'
  refine ⟨_, t, _, t', hret, hret', w, le_rfl, hsettled.alike hs hsettled', rfl, ?_⟩
  rw [Option.map_some, Option.map_some, ← hr, ← hr']

private theorem mirrors_evaluateCompiled? (hc : seed.Enrolled w c) :
    Mirrors (Alike (G := G) k) w c.evaluateCompiled? c.evaluateCompiled?
      fun w' r r' => w' = w ∧ r'.map TestRun.gist = r.map TestRun.gist := by
  refine repeats_isCompilable.then ?_
  rintro _ b _ rfl
  cases b with
  | false => exact mirrors_pure ⟨rfl, rfl⟩
  | true =>
    refine (mirrors_evaluate? hc).bind ?_
    rintro _ r r' _ ⟨rfl, hr⟩
    refine mirrors_pure ⟨rfl, ?_⟩
    rcases map_eq_map_cases hr with ⟨rfl, rfl⟩ | ⟨result, result', rfl, rfl, hgist⟩
    · rfl
    · have hcompiled : result'.compiled = result.compiled := congrArg Prod.fst hgist
      cases hok : result.compiled with
      | false => simp [Option.filter, hcompiled, hok]
      | true => simp [Option.filter, hcompiled, hok, hgist]

theorem repeats_isEvaluated :
    Repeats (Alike (G := G) k) w c.isEvaluated fun w' _ => w' = w := by
  unfold isEvaluated result?
  simp only [bind_assoc, pure_bind]
  refine (Lab.mirrors_memo c.memo).bind ?_
  rintro _ m m' _ ⟨rfl, hm⟩
  obtain ⟨-, hresult, -⟩ := Gist.mk.inj hm
  have hsome : m'.result.isSome = m.result.isSome := by
    rw [← Option.isSome_map, hresult, Option.isSome_map]
  rw [hsome]
  exact repeats_pure rfl

private theorem repeats_spectra : Repeats (Alike (G := G) k) w c.spectra fun w' _ => w' = w := by
  refine (Lab.mirrors_memo c.memo).bind ?_
  rintro _ m m' _ ⟨rfl, hm⟩
  obtain ⟨hbuild, hresult, hspectra⟩ := Gist.mk.inj hm
  cases hs : m.spectra with
  | some spectra =>
    rw [hs] at hspectra
    simp only [hspectra]
    exact repeats_pure rfl
  | none =>
    rw [hs] at hspectra
    rcases map_eq_map_cases hresult with ⟨hr, hr'⟩ | ⟨r, r', hr, hr', hgist⟩
    · simp only [hspectra, hr, hr']
      exact repeats_pure rfl
    · have hcoverage : r'.coverage = r.coverage := congrArg Prod.snd hgist
      have hwritten : ({ m' with result := some r', spectra := some (.ofCoverage r.coverage) } :
          Memo).gist =
          ({ m with result := some r, spectra := some (.ofCoverage r.coverage) } : Memo).gist := by
        simp only [Memo.gist, hbuild, Option.map_some, hgist]
      simp only [hspectra, hr, hr', hcoverage]
      refine (Lab.mirrors_setMemo c.memo hwritten).bind ?_
      rintro _ _ _ _ ⟨rfl, rfl⟩
      exact repeats_pure rfl

/-! ## Fitness -/

variable [Scalar R]

private theorem repeats_suspiciousness (hc : seed.Enrolled w c) :
    Repeats (Alike (G := G) k) w c.suspiciousness fun w' _ => w' = w := by
  refine (mirrors_evaluateCompiled? hc).bind ?_
  rintro _ r r' _ ⟨rfl, hr⟩
  rcases map_eq_map_cases hr with ⟨rfl, rfl⟩ | ⟨result, result', rfl, rfl, -⟩
  · exact repeats_pure rfl
  · refine repeats_spectra.bind ?_
    rintro _ spectra _ rfl
    exact Lab.repeats_orFail

omit [Scalar R] in
private theorem mirrors_baseline {result result' : TestRun} (h : result'.gist = result.gist) :
    Mirrors (Alike (G := G) k) w (baseline result) (baseline result')
      (Same fun w' _ => w' = w) := by
  refine Lab.mirrors_getBaseline.bind ?_
  rintro _ s s' _ ⟨rfl, hs⟩
  rw [hs]
  cases s.baseline with
  | some b => exact repeats_pure rfl
  | none =>
    rw [TestRun.passing_eq h, TestRun.failing_eq h]
    refine mirrors_of_returns fun s s' hs => ?_
    refine ⟨_, _, _, _, returns_modify_bind.mpr (returns_pure.mpr ⟨rfl, rfl⟩),
      returns_modify_bind.mpr (returns_pure.mpr ⟨rfl, rfl⟩), _, le_rfl, ?_, rfl, rfl⟩
    exact { hs with baseline_eq := rfl }

private theorem repeats_fitness (hc : seed.Enrolled w c) :
    Repeats (Alike (G := G) k) w c.fitness fun w' _ => w' = w := by
  refine (mirrors_evaluateCompiled? hc).bind ?_
  rintro _ r r' _ ⟨rfl, hr⟩
  rcases map_eq_map_cases hr with ⟨rfl, rfl⟩ | ⟨result, result', rfl, rfl, hgist⟩
  · exact repeats_pure rfl
  · refine (mirrors_baseline hgist).bind ?_
    rintro _ b _ _ ⟨rfl, rfl⟩
    simp only [TestRun.passing_eq hgist]
    exact Lab.repeats_orFail

omit [Scalar R] in
private theorem repeats_comparison (hc : seed.Enrolled w c) :
    Repeats (Alike (G := G) k) w (do
      match (← get).baseline with
      | none => return false
      | some b =>
        match ← c.evaluateCompiled? with
        | some result => return result.passing.length == b.passing.length + b.failing.length
        | none => return false) fun w' _ => w' = w := by
  refine Lab.mirrors_getBaseline.bind ?_
  rintro _ s s' _ ⟨rfl, hs⟩
  rw [hs]
  cases s.baseline with
  | none => exact repeats_pure rfl
  | some b =>
    refine (mirrors_evaluateCompiled? hc).bind ?_
    rintro _ r r' _ ⟨rfl, hr⟩
    rcases map_eq_map_cases hr with ⟨rfl, rfl⟩ | ⟨result, result', rfl, rfl, hgist⟩
    · exact repeats_pure rfl
    · simp only [TestRun.passing_eq hgist]
      exact repeats_pure rfl

private theorem repeats_isRepair (hc : seed.Enrolled w c) :
    Repeats (Alike (G := G) k) w c.isRepair fun w' _ => w' = w := by
  refine Lab.mirrors_getBaseline.bind ?_
  rintro _ s s' _ ⟨rfl, hs⟩
  rw [hs]
  split
  · refine (repeats_fitness hc).bind ?_
    rintro _ _ _ rfl
    exact repeats_comparison hc
  · exact repeats_comparison hc

end Candidate

theorem Steady.agreement [Scalar R] (k : Steady T seed.suite) :
    Agreement seed (Alike (G := G) k) fun _ _ => True where
  draw act := Lab.repeats_draw act
  newMemo p := Lab.repeats_newMemo p
  isCompilable _ := Candidate.repeats_isCompilable.mono fun _ _ _ h => ⟨h, trivial⟩
  suspiciousness hc := Candidate.repeats_suspiciousness hc
  fitness hc := (Candidate.repeats_fitness hc).mono fun _ _ _ _ => trivial
  isRepair hc := (Candidate.repeats_isRepair hc).mono fun _ _ _ _ => trivial

end GeneticRepair
