import GeneticRepair.Proofs.Candidate.Bounds
import GeneticRepair.Proofs.Candidate.ClassicMutation
import GeneticRepair.Proofs.Config.Comparison
import GeneticRepair.Proofs.Random
import GeneticRepair.Random.MersenneTwister

/-!
# Tournaments

Of two members at distinct positions the fitter one is selected, and of equally fit ones the second.
A member that all others are fitter than is therefore never selected. The members have to have
fixed fitness values, as evaluated candidates do once there is a baseline.
-/

namespace GeneticRepair.Candidate

variable {R T G : Type} [Toolchain T]

/-! ## Fixed fitness -/

section Fixed

variable [Scalar R] {c d : Candidate R} {population : List (Candidate R)} {value : Candidate R → R}
  {inv : Lab T G → Prop} {s t : Lab T G} {memos : Array Memo} {b : Baseline} {x : R}

/-- In the states of an invariant the members of a population have the fitness values. Neither a draw
nor a question for the fitness of a member leaves these states. -/
structure FixedFitness (inv : Lab T G → Prop) (value : Candidate R → R)
    (population : List (Candidate R)) : Prop where
  draw : ∀ s g, inv s → inv { s with random := g }
  fitness : ∀ c ∈ population, ∀ s, inv s → ∃ s', Returns c.fitness s (value c) s' ∧ inv s'

/-- The memo of the candidate holds a result that is worth so much. -/
structure Rated (memos : Array Memo) (b : Baseline) (c : Candidate R) (x : R) (m : Memo)
    (r : TestRun) : Prop where
  memo : memos[c.memo]? = some m
  result : m.result = some r
  build : m.build = some r.build
  worth : if r.compiled = true then r.Earns c.strategies.weights b x else x = Scalar.origin

omit [Scalar R] in
private theorem returns_evaluateCompiled?_of_failed {m : Memo} {build : BuildOutcome}
    (hm : s.memos[c.memo]? = some m) (hbuild : m.build = some build)
    (hfailed : build.successful = false) : Returns c.evaluateCompiled? s none s := by
  have hcompiles : Returns c.isCompilable s false s := by
    rw [isCompilable, Returns, (Lab.returns_memo hm).run_bind, hbuild]
    exact returns_pure.mpr ⟨hfailed.symm, rfl⟩
  rw [evaluateCompiled?, Returns, hcompiles.run_bind]
  rfl

private theorem Rated.returns_fitness {m : Memo} {r : TestRun} (h : Rated s.memos b c x m r)
    (hb : s.baseline = some b) : Returns c.fitness s x s := by
  have hworth := h.worth
  by_cases hcompiled : r.compiled = true
  · rw [if_pos hcompiled] at hworth
    have hresult := returns_evaluateCompiled?_of_memo h.memo h.result h.build hcompiled
    have hfitness := Candidate.returns_fitness hresult (by rw [hb, Option.getD_some]) hworth
    have hsame : { s with baseline := some b } = s := by rw [← hb]
    rwa [hsame] at hfitness
  · rw [if_neg hcompiled] at hworth
    have hfailed : r.build.successful = false := by simpa [TestRun.compiled] using hcompiled
    have hresult := returns_evaluateCompiled?_of_failed h.memo h.build hfailed
    rw [hworth]
    exact returns_fitness_of_none hresult

private theorem fixedFitness_of_rated
    (hrated : ∀ c ∈ population, ∃ m r, Rated memos b c (value c) m r) :
    FixedFitness (fun s : Lab T G => s.memos = memos ∧ s.baseline = some b) value population where
  draw _ _ hs := hs
  fitness c hc s hs := by
    obtain ⟨m, r, hrated⟩ := hrated c hc
    rw [← hs.1] at hrated
    exact ⟨s, hrated.returns_fitness hs.2, hs⟩

/-- The winner, of which one candidate is the first that was drawn and the other the second. -/
def winner (value : Candidate R → R) (c d : Candidate R) : Candidate R :=
  if Scalar.less (value d) (value c) then c else d

private theorem returns_fitter (hfixed : FixedFitness inv value population) (hc : c ∈ population)
    (hd : d ∈ population) (hs : inv s) :
    ∃ s', Returns (c.fitter d) s (winner value c d) s' ∧ inv s' := by
  obtain ⟨t, hfirst, ht⟩ := hfixed.fitness c hc s hs
  obtain ⟨s', hsecond, hs'⟩ := hfixed.fitness d hd t ht
  refine ⟨s', ?_, hs'⟩
  rw [fitter, Returns, hfirst.run_bind, hsecond.run_bind]
  rfl

private theorem returns_selectBy {draw : Nat → StateM G (Nat × Nat)} {i j : Nat} {g : G}
    (hsize : 2 ≤ population.length) (hfixed : FixedFitness inv value population) (hs : inv s)
    (hdraw : (draw population.length).run s.random = ((i, j), g)) (hc : population[i]? = some c)
    (hd : population[j]? = some d) :
    ∃ s', Returns (selectBy draw population) s (winner value c d) s' ∧ inv s' := by
  have hdrawn : Returns (Lab.draw (draw population.length)) s (i, j) { s with random := g } :=
    Lab.returns_draw.mpr ⟨g, hdraw, rfl⟩
  obtain ⟨s', hfitter, hs'⟩ := returns_fitter hfixed (List.mem_of_getElem? hc)
    (List.mem_of_getElem? hd) (hfixed.draw s g hs)
  refine ⟨s', ?_, hs'⟩
  match population with
  | [] => simp at hsize
  | [e] => simp at hsize
  | e :: f :: rest =>
    rw [selectBy.eq_3 draw e (f :: rest) (by simp), Returns, hdrawn.run_bind]
    dsimp only
    rw [List.getD_eq_getElem?_getD, List.getD_eq_getElem?_getD, hc, hd]
    exact hfitter

end Fixed

/-! ## Winners -/

variable {c d e : Candidate Quantity} {population : List (Candidate Quantity)}
  {value : Candidate Quantity → Quantity}

/-- What is known of the winner between two members with these fitness values, the first of which was
drawn first. -/
structure Wins (value : Candidate Quantity → Quantity) (c d z : Candidate Quantity) : Prop where
  fitter : Scalar.less (value d) (value c) = true → z = c
  otherwise : Scalar.less (value d) (value c) = false → z = d
  tie : Scalar.same (value c) (value d) = true → z = d
  atLeast : Scalar.atMost (value c) (value z) = true ∧ Scalar.atMost (value d) (value z) = true

private theorem wins_winner (hc : ¬ (value c).IsNaN) (hd : ¬ (value d).IsNaN) :
    Wins value c d (winner value c d) := by
  have hself : ∀ x : Quantity, ¬ x.IsNaN → Scalar.atMost x x = true := by
    intro x hx
    by_cases hless : Scalar.less x x = true
    · cases (Number.not_less_of_less hless).symm.trans hless
    · exact Quantity.atMost_of_not_less hx hx (by simpa using hless)
  by_cases hless : Scalar.less (value d) (value c) = true
  · have hwinner : winner value c d = c := if_pos hless
    rw [hwinner]
    have hnot : Scalar.less (value c) (value d) = false := Number.not_less_of_less hless
    refine ⟨fun _ => rfl, ?_, ?_, hself _ hc, Quantity.atMost_of_not_less hd hc hnot⟩
    · intro hother
      cases hless.symm.trans hother
    · intro htie
      cases (Number.not_same_of_less hless).2.symm.trans htie
  · have hwinner : winner value c d = d := if_neg hless
    rw [hwinner]
    have hnot : Scalar.less (value d) (value c) = false := by simpa using hless
    exact ⟨fun h => absurd h hless, fun _ => rfl, fun _ => rfl,
      Quantity.atMost_of_not_less hc hd hnot, hself _ hd⟩

private theorem Wins.eq_or_eq (h : Wins value c d e) : e = c ∨ e = d := by
  by_cases hless : Scalar.less (value d) (value c) = true
  · exact .inl (h.fitter hless)
  · exact .inr (h.otherwise (by simpa using hless))

/-- All members at other positions are fitter than the one at this position. -/
def LeastFit (value : Candidate Quantity → Quantity) (population : List (Candidate Quantity))
    (p : Nat) : Prop :=
  ∀ c d q, population[p]? = some c → population[q]? = some d → q ≠ p →
    Scalar.less (value c) (value d) = true

private theorem Wins.ne_of_leastFit {i j p : Nat} (h : Wins value c d e)
    (hc : population[i]? = some c)
    (hd : population[j]? = some d) (hij : i ≠ j) (hleast : LeastFit value population p) :
    population[p]? ≠ some e := by
  intro he
  by_cases hi : i = p
  · have hj : j ≠ p := by omega
    have hfitter := hleast e d j he hd hj
    cases (Quantity.not_atMost_of_less hfitter).symm.trans h.atLeast.2
  · have hfitter := hleast e c i he hc hi
    cases (Quantity.not_atMost_of_less hfitter).symm.trans h.atLeast.1

private theorem exists_leastFit_of_pair {c' d' : Candidate Quantity}
    (hpair : population = [c', d'] ∨ population = [d', c'])
    (hfitter : Scalar.less (value d') (value c') = true) :
    ∃ p, population[p]? = some d' ∧ LeastFit value population p := by
  cases hpair with
  | inl hpair =>
    subst hpair
    refine ⟨1, rfl, ?_⟩
    intro a b q ha hb hq
    match q with
    | 0 => cases ha; cases hb; exact hfitter
    | 1 => exact absurd rfl hq
    | q + 2 => cases hb
  | inr hpair =>
    subst hpair
    refine ⟨0, rfl, ?_⟩
    intro a b q ha hb hq
    match q with
    | 0 => exact absurd rfl hq
    | 1 => cases ha; cases hb; exact hfitter
    | q + 2 => cases hb

/-- Of two members the strictly fitter one wins, wherever it stands. -/
theorem Wins.eq_of_pair {i j : Nat} {c' d' : Candidate Quantity} (h : Wins value c d e)
    (hc : population[i]? = some c) (hd : population[j]? = some d) (hij : i ≠ j)
    (hpair : population = [c', d'] ∨ population = [d', c'])
    (hfitter : Scalar.less (value d') (value c') = true) : e = c' := by
  have hmem : e ∈ population := by
    cases h.eq_or_eq with
    | inl heq => exact heq ▸ List.mem_of_getElem? hc
    | inr heq => exact heq ▸ List.mem_of_getElem? hd
  have hnot : e ≠ d' := by
    intro heq
    obtain ⟨p, hp, hleast⟩ := exists_leastFit_of_pair hpair hfitter
    exact h.ne_of_leastFit hc hd hij hleast (heq ▸ hp)
  cases hpair with
  | inl hpair => simpa [hpair, hnot] using hmem
  | inr hpair => simpa [hpair, hnot] using hmem

/-- The action ends with the winner among the members at the two positions, which are distinct. A
member that is less fit than all others is not it, and of two members the fitter one is. -/
def KeepsFitter (value : Candidate Quantity → Quantity) (population : List (Candidate Quantity))
    (act : Action T G (Candidate Quantity)) (s : Lab T G) (i j : Nat) : Prop :=
  ∃ c d z s', i ≠ j ∧ population[i]? = some c ∧ population[j]? = some d ∧
    Returns act s z s' ∧ (z = c ∨ z = d) ∧ Wins value c d z ∧
    (∀ p, LeastFit value population p → population[p]? ≠ some z) ∧
    ∀ c' d', population = [c', d'] ∨ population = [d', c'] →
      Scalar.less (value d') (value c') = true → z = c'

private theorem keepsFitter_selectBy [RandomSource G] {draw : Nat → StateM G (Nat × Nat)}
    {inv : Lab T G → Prop} {s : Lab T G} {pair : Nat × Nat} {g : G}
    (hsize : 2 ≤ population.length) (hfixed : FixedFitness inv value population) (hs : inv s)
    (hnumber : ∀ c ∈ population, ¬ (value c).IsNaN)
    (hends : Random.DrawsTwo population.length s.random pair g)
    (hdraw : (draw population.length).run s.random = (pair, g)) :
    KeepsFitter value population (selectBy draw population) s pair.1 pair.2 := by
  obtain ⟨hi, hj, hij⟩ := hends.distinct hsize
  have hc : population[pair.1]? = some population[pair.1] := List.getElem?_eq_getElem hi
  have hd : population[pair.2]? = some population[pair.2] := List.getElem?_eq_getElem hj
  obtain ⟨s', hreturns, -⟩ := returns_selectBy hsize hfixed hs hdraw hc hd
  have hwins : Wins value population[pair.1] population[pair.2]
      (winner value population[pair.1] population[pair.2]) :=
    wins_winner (hnumber _ (List.mem_of_getElem? hc)) (hnumber _ (List.mem_of_getElem? hd))
  refine ⟨_, _, _, s', hij, hc, hd, hreturns, hwins.eq_or_eq, hwins, ?_, ?_⟩
  · intro p hleast
    exact hwins.ne_of_leastFit hc hd hij hleast
  · intro c' d' hpair hfitter
    exact hwins.eq_of_pair hc hd hij hpair hfitter

/-- A tournament of two members or more, whose fitness values are fixed numbers, ends if the draw of
the two positions does, and the positions are distinct. The winner is the candidate at one of them,
with the same memo; it is as fit as the other one at least, and the second one of two that are
equally fit. So a member that is less fit than all others is never selected, and of two members the
fitter one always is. -/
theorem selectBy_keeps_fitter [RandomSource G] {draw : Nat → StateM G (Nat × Nat)}
    {inv : Lab T G → Prop} {s : Lab T G} {i j : Nat} {g : G}
    (hsize : 2 ≤ population.length) (hfixed : FixedFitness inv value population) (hs : inv s)
    (hnumber : ∀ c ∈ population, ¬ (value c).IsNaN)
    (hends : Random.DrawsTwo population.length s.random (i, j) g)
    (hdraw : (draw population.length).run s.random = ((i, j), g)) :
    ∃ c d z s', i ≠ j ∧ population[i]? = some c ∧ population[j]? = some d ∧
      Returns (selectBy draw population) s z s' ∧ (z = c ∨ z = d) ∧ Wins value c d z ∧
      (∀ p, LeastFit value population p → population[p]? ≠ some z) ∧
      ∀ c' d', population = [c', d'] ∨ population = [d', c'] →
        Scalar.less (value d') (value c') = true → z = c' :=
  keepsFitter_selectBy hsize hfixed hs hnumber hends hdraw

/-- The tournament of a search keeps the fitter member with every source of randomness: among 21
members or fewer whatever it draws, and among more as long as its redraws last. -/
theorem exists_keepsFitter_select [RandomSource G] {inv : Lab T G → Prop} {s : Lab T G}
    (hsize : 2 ≤ population.length) (hfixed : FixedFitness inv value population) (hs : inv s)
    (hnumber : ∀ c ∈ population, ¬ (value c).IsNaN)
    (hlast : Random.RedrawsLast population.length s.random) :
    ∃ i j, KeepsFitter value population (select population) s i j := by
  have hends := Random.drawsTwo_twoBelow_of_redrawsLast hsize hlast
  exact ⟨_, _, keepsFitter_selectBy hsize hfixed hs hnumber hends rfl⟩

/-- Of two members a search always selects the strictly fitter one. -/
theorem returns_select_of_pair [RandomSource G] {inv : Lab T G → Prop} {s : Lab T G}
    (hpair : population = [c, d] ∨ population = [d, c])
    (hfixed : FixedFitness inv value population) (hs : inv s)
    (hnumber : ∀ e ∈ population, ¬ (value e).IsNaN)
    (hfitter : Scalar.less (value d) (value c) = true) :
    ∃ s', Returns (select population) s c s' := by
  have hlength : population.length = 2 := by
    rcases hpair with rfl | rfl <;> rfl
  have hlast : Random.RedrawsLast population.length s.random := by
    intro hmany
    omega
  obtain ⟨_, _, _, _, z, s', -, -, -, hreturns, -, -, -, hwinner⟩ :=
    exists_keepsFitter_select hlength.ge hfixed hs hnumber hlast
  obtain rfl := hwinner c d hpair hfitter
  exact ⟨s', hreturns⟩

end GeneticRepair.Candidate

/-! ## A seed and its correction -/

namespace GeneticRepair.WrongSum

def scoredLab : Lab Simulation MersenneTwister :=
  (Question.after ⟨.new rules, #[.empty, .empty], none, .ofSeed 0⟩
    [(.fitness, seed), (.fitness, corrected)])

def worth (c : Candidate Quantity) : Quantity :=
  if c.memo = 0 then .ofInt 0 else .ofInt 10

private theorem fixedFitness_pair :
    Candidate.FixedFitness (fun s : Lab Simulation MersenneTwister =>
      s.memos = scoredLab.memos ∧ s.baseline = some ⟨[], ["test_sum.py::test_add"]⟩)
      worth [seed, corrected] := by
  apply Candidate.fixedFitness_of_rated
  intro c hc
  rcases List.mem_pair.mp hc with rfl | rfl
  · exact ⟨_, _, rfl, rfl, rfl, rfl⟩
  · exact ⟨_, _, rfl, rfl, rfl, rfl⟩

/-- The correction is selected, whichever of the two is drawn first. -/
theorem corrected_selected :
    ∃ s', Returns (Candidate.select [seed, corrected]) scoredLab corrected s' := by
  have hnumber : ∀ c ∈ [seed, corrected], ¬ (worth c).IsNaN := by
    intro c hc hnot
    obtain ⟨x, hx, -⟩ := hnot
    rcases List.mem_pair.mp hc with rfl | rfl <;> cases hx
  have hdraws := Random.drawsTwo_twoBelow (by decide : 2 ≤ 2) (by decide) scoredLab.random
  rcases hdraw : (Random.twoBelow 2).run scoredLab.random with ⟨⟨i, j⟩, g⟩
  rw [hdraw] at hdraws
  obtain ⟨_, _, z, s', -, -, -, hreturns, -, -, -, hpair⟩ :=
    Candidate.selectBy_keeps_fitter (by decide) fixedFitness_pair ⟨rfl, rfl⟩ hnumber hdraws hdraw
  have hz : z = corrected := hpair corrected seed (.inr rfl) rfl
  subst hz
  exact ⟨s', hreturns⟩

end GeneticRepair.WrongSum
