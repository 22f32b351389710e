import GeneticRepair.Proofs.Candidate.Fitness
import GeneticRepair.Proofs.Search.Course
import GeneticRepair.Proofs.Search.Population

/-!
# One generation of a search

With a coherent toolchain the members of a population are scored and judged rightly, one after
another, up to the first repair; the best candidate so far is the first of the best.
-/

namespace GeneticRepair

namespace Search

variable {R T G : Type}

def better [Scalar R] (best x : Candidate R × R) : Candidate R × R :=
  if Scalar.less best.2 x.2 then x else best

def rejections (generation : Int) (scored : List (Candidate R × R)) : List (Event R) :=
  scored.map fun x => .candidateEvaluated x.1 generation x.2 false

/-- How a generation ends in which this is the first repair, if there is one. -/
def closing (generation : Int) (best : Candidate R × R) : Option (Candidate R) → List (Event R)
  | some _ => []
  | none => [.generationFinished generation best.1 best.2]

private theorem better_eq_or [Scalar R] (best x : Candidate R × R) :
    better best x = best ∨ better best x = x := by
  unfold better
  split
  · exact .inr rfl
  · exact .inl rfl

theorem foldl_better_mem [Scalar R] (scored : List (Candidate R × R)) (best : Candidate R × R) :
    scored.foldl better best = best ∨ scored.foldl better best ∈ scored := by
  induction scored generalizing best with
  | nil => exact .inl rfl
  | cons x scored ih =>
    rw [List.foldl_cons]
    rcases ih (better best x) with h | h
    · rw [h]
      rcases better_eq_or best x with h | h
      · exact .inl h
      · exact .inr (by simp [h])
    · exact .inr (List.mem_cons_of_mem x h)

end Search

open Search

variable {R T G : Type} [Toolchain T] [Scalar R]

variable {seed c : Candidate R} {k : Coherence T seed.suite} {w w' : Ledger}
  {scored : List (Candidate R × R)}

namespace Coherence

/-- Candidates that have been scored and are no repairs. -/
def Rejects (k : Coherence T seed.suite) (w : Ledger) (scored : List (Candidate R × R)) : Prop :=
  ∀ x ∈ scored, k.Scored w x.1 x.2 ∧ ¬ k.Repairs x.1.program

theorem Rejects.mono (hw : w ≤ w') (h : k.Rejects w scored) : k.Rejects w' scored :=
  fun x hx => ⟨(h x hx).1.mono hw, (h x hx).2⟩

theorem Rejects.not_repairs (h : k.Rejects w scored) (hc : c ∈ scored.map Prod.fst) :
    ¬ k.Repairs c.program := by
  obtain ⟨x, hx, rfl⟩ := List.mem_map.mp hc
  exact (h x hx).2

end Coherence

namespace Search

variable {population : List (Candidate R)} {s s' : Search R T G}

/-- What has happened when the members of a population have been scored one after another. -/
inductive Assessment (k : Coherence T seed.suite) (w : Ledger) (generation : Int)
    (best : Candidate R × R) (population : List (Candidate R)) :
    Option (Candidate R) → Candidate R × R → List (Event R) → Prop
  | unsolved (scored : List (Candidate R × R)) (members : scored.map Prod.fst = population)
      (rejects : k.Rejects w scored) :
      Assessment k w generation best population none (scored.foldl better best)
        (rejections generation scored)
  | solved (scored : List (Candidate R × R)) (c : Candidate R) (r : R) (rest : List (Candidate R))
      (members : population = scored.map Prod.fst ++ c :: rest) (rejects : k.Rejects w scored)
      (score : k.Scored w c r) (repairs : k.Repairs c.program) :
      Assessment k w generation best population (some c) (c, r)
        (rejections generation scored ++
          [.candidateEvaluated c generation r true, .repairFound c generation])

private theorem Assessment.cons {generation : Int} {best best' : Candidate R × R} {r : R}
    {o : Option (Candidate R)} {events : List (Event R)} (hscore : k.Scored w c r)
    (hrepair : ¬ k.Repairs c.program)
    (h : Assessment k w generation (better best (c, r)) population o best' events) :
    Assessment k w generation best (c :: population) o best'
      (.candidateEvaluated c generation r false :: events) := by
  have hcons : ∀ scored, k.Rejects w scored → k.Rejects w ((c, r) :: scored) := by
    intro scored h x hx
    rcases List.mem_cons.mp hx with rfl | hx
    · exact ⟨hscore, hrepair⟩
    · exact h x hx
  cases h with
  | unsolved scored members rejects =>
    exact .unsolved ((c, r) :: scored) (by simp [members]) (hcons scored rejects)
  | solved scored d r' rest members rejects score repairs =>
    exact .solved ((c, r) :: scored) d r' rest (by simp [members]) (hcons scored rejects) score
      repairs

omit [Scalar R] in
private theorem returns_inLab_sound {G α : Type} {act : Action T G α} {post : Ledger → α → Prop}
    {s s' : Search R T G} {a : α} (h : Returns (inLab act) s a s') (hs : k.Sound w s.lab)
    (hact : Keeps (k.Sound (G := G)) w act post) :
    ∃ w' lab, w ≤ w' ∧ k.Sound w' lab ∧ post w' a ∧ s' = { s with lab } := by
  obtain ⟨lab, hret, hs'⟩ := returns_inLab.mp h
  obtain ⟨w', hw, hlab, hpost⟩ := hact _ _ _ hs hret
  exact ⟨w', lab, hw, hlab, hpost, hs'⟩

omit [Toolchain T] in
private theorem returns_ite_setBest {α : Type} {best : Candidate R × R} {r : R}
    {act : Searching R T G α}
    {a : α} (hbest : s.best = some best) :
    Returns (if Scalar.less best.2 r = true then do setBest c r; act else act) s a s' ↔
      Returns act { s with best := some (better best (c, r)) } a s' := by
  unfold better
  by_cases hless : Scalar.less best.2 r = true
  · rw [if_pos hless, if_pos hless]
    exact returns_setBest_bind
  · rw [if_neg hless, if_neg hless, ← hbest]

private theorem scoreAll_assessment {generation : Int} {o : Option (Candidate R)}
    {best : Candidate R × R}
    (h : Returns (scoreAll generation population) s o s') (hs : k.Sound w s.lab)
    (hpop : ∀ c ∈ population, seed.Enrolled w c) (hbest : s.best = some best) :
    ∃ w' best' events, w ≤ w' ∧ k.Sound w' s'.lab ∧ s'.state = s.state ∧ s'.best = some best' ∧
      s'.events = s.events ++ events ∧
      Assessment k w' generation best population o best' events := by
  induction population generalizing w s best with
  | nil =>
    obtain ⟨rfl, rfl⟩ := returns_pure.mp h
    exact ⟨w, best, [], le_rfl, hs, rfl, hbest, by simp,
      .unsolved [] rfl (by simp [Coherence.Rejects])⟩
  | cons c cs ih =>
    have hc := hpop c (by simp)
    obtain ⟨r, _, hfitness, h⟩ := returns_bind.mp h
    obtain ⟨w₁, lab₁, hw₁, hs₁, ⟨-, hscore⟩, rfl⟩ :=
      returns_inLab_sound hfitness hs (Candidate.keeps_fitness hc)
    obtain ⟨verdict, _, hverdict, h⟩ := returns_bind.mp h
    obtain ⟨w₂, lab₂, hw₂, hs₂, hrepair, rfl⟩ :=
      returns_inLab_sound hverdict hs₁ (Candidate.keeps_isRepair (hc.mono hw₁))
    replace h := returns_report_bind.mp h
    have hw := hw₁.trans hw₂
    replace hscore := hscore.mono hw₂
    cases verdict with
    | true =>
      rw [if_pos rfl] at h
      replace h := returns_report_bind.mp (returns_setBest_bind.mp h)
      obtain ⟨rfl, rfl⟩ := returns_pure.mp h
      refine ⟨w₂, (c, r), _, hw, hs₂, rfl, rfl, List.append_assoc .., ?_⟩
      exact .solved [] c r cs rfl (by simp [Coherence.Rejects]) hscore (hrepair.mp rfl)
    | false =>
      have hno : ¬ k.Repairs c.program := fun hyes => nomatch hrepair.mpr hyes
      rw [if_neg (by simp)] at h
      replace h := returns_get_bind.mp h
      simp only [hbest] at h
      replace h := (returns_ite_setBest rfl).mp h
      have hrest : ∀ c ∈ cs, seed.Enrolled w₂ c := fun d hd =>
        (hpop d (List.mem_cons_of_mem c hd)).mono hw
      obtain ⟨w', best', events, hw', hs', hstate, hbest', hevents, hassess⟩ := ih h hs₂ hrest rfl
      refine ⟨w', best', .candidateEvaluated c generation r false :: events, hw.trans hw', hs',
        hstate, hbest', by simp [hevents], ?_⟩
      exact hassess.cons (hscore.mono hw') hno

/-! ## One generation -/

omit [Scalar R] in
private theorem keeps_evaluateAll {G : Type} (hpop : ∀ c ∈ population, seed.Enrolled w c) :
    Keeps (k.Sound (G := G)) w (evaluateAll population) fun w' _ => w' = w := by
  suffices hsame : Keeps (k.Sound (G := G)) w (evaluateAll population) fun w' _ => w' = w ∧ True
    from hsame.mono fun _ _ _ h => h.1
  rw [keeps_same_iff ()]
  have hevaluated : ∀ c ∈ population,
      Keeps (fun _ : Unit => k.Sound (G := G) w) () c.isEvaluated fun _ _ => True := by
    intro c hc
    unfold Candidate.isEvaluated Candidate.result?
    simp only [bind_assoc, pure_bind]
    have hmemo := (keeps_same_iff ()).mp (Lab.achieves_memo (k := k) (G := G) (hpop c hc)).keeps
    exact hmemo.bind fun _ _ _ _ => keeps_pure trivial
  have hpending : Keeps (fun _ : Unit => k.Sound (G := G) w) () (unevaluated population)
      fun _ cs => cs.Sublist population :=
    repeats_diagonal_iff.mp (repeats_unevaluated fun _ _ c hc =>
      repeats_diagonal_iff.mpr (hevaluated c hc))
  refine hpending.bind ?_
  rintro _ cs - hsub
  refine Keeps.bind (Keeps.forIn fun _ _ c hc => ?_) fun _ _ _ _ => keeps_pure trivial
  have hmem : c ∈ population := hsub.subset (distinct_subset cs hc)
  have heval := (Candidate.achieves_evaluate? (k := k) (G := G) (hpop c hmem)).keeps
  exact ((keeps_same_iff ()).mp heval).mono fun _ _ _ _ => trivial

/-- The best candidate before a population is evaluated; a repair can only be a member of it. -/
structure Leads (k : Coherence T seed.suite) (w : Ledger) (population : List (Candidate R))
    (best : Candidate R × R) : Prop where
  enrolled : seed.Enrolled w best.1
  score : k.Scored w best.1 best.2
  mem_of_repairs : k.Repairs best.1.program → best.1 ∈ population

private theorem Leads.mono {best : Candidate R × R} (hw : w ≤ w')
    (h : Leads k w population best) : Leads k w' population best :=
  ⟨h.enrolled.mono hw, h.score.mono hw, h.mem_of_repairs⟩

private theorem Leads.foldl_better {best : Candidate R × R}
    (h : Leads k w (scored.map Prod.fst) best)
    (henrolled : ∀ c ∈ scored.map Prod.fst, seed.Enrolled w c) (hrejects : k.Rejects w scored) :
    seed.Enrolled w (scored.foldl better best).1 ∧
      k.Scored w (scored.foldl better best).1 (scored.foldl better best).2 ∧
      ¬ k.Repairs (scored.foldl better best).1.program := by
  rcases foldl_better_mem scored best with heq | hmem
  · rw [heq]
    exact ⟨h.enrolled, h.score, fun hyes => hrejects.not_repairs (h.mem_of_repairs hyes) hyes⟩
  · exact ⟨henrolled _ (List.mem_map_of_mem hmem), hrejects _ hmem⟩

theorem evaluateGeneration_assessment {generation : Int} {o : Option (Candidate R)}
    {best : Candidate R × R} (h : Returns (evaluateGeneration population generation) s o s')
    (hs : k.Sound w s.lab) (hpop : ∀ c ∈ population, seed.Enrolled w c)
    (hbest : s.best = some best) :
    ∃ w' best' events, w ≤ w' ∧ k.Sound w' s'.lab ∧ s'.best = some best' ∧
      Assessment k w' generation best population o best' events ∧
      s'.events = s.events ++ events ++ closing generation best' o := by
  replace h := returns_enter_bind.mp h
  obtain ⟨_, _, heval, h⟩ := returns_bind.mp h
  obtain ⟨_, lab₁, -, hs₁, rfl, rfl⟩ := returns_inLab_sound heval hs (keeps_evaluateAll hpop)
  obtain ⟨o', s₂, hscore, h⟩ := returns_bind.mp h
  obtain ⟨w', best', events, hw, hs₂, -, hbest', hevents, hassess⟩ :=
    scoreAll_assessment hscore hs₁ hpop hbest
  cases o' with
  | some c =>
    obtain ⟨rfl, rfl⟩ := returns_pure.mp h
    exact ⟨w', best', events, hw, hs₂, hbest', hassess, by simp [hevents, closing]⟩
  | none =>
    replace h := returns_get_bind.mp h
    simp only [hbest'] at h
    replace h := returns_report_bind.mp h
    obtain ⟨rfl, rfl⟩ := returns_pure.mp h
    exact ⟨w', best', events, hw, hs₂, hbest', hassess, by simp [hevents, closing]⟩

theorem evaluateGeneration_unsolved {generation : Int} {best : Candidate R × R}
    (h : Returns (evaluateGeneration population generation) s none s') (hs : k.Sound w s.lab)
    (hpop : ∀ c ∈ population, seed.Enrolled w c) (hbest : s.best = some best)
    (hleads : Leads k w population best) :
    ∃ w' scored best', w ≤ w' ∧ k.Sound w' s'.lab ∧ population = scored.map Prod.fst ∧
      k.Rejects w' scored ∧ scored.foldl better best = best' ∧ s'.best = some best' ∧
      s'.events = s.events ++ (rejections generation scored ++
        [.generationFinished generation best'.1 best'.2]) ∧
      seed.Enrolled w' best'.1 ∧ k.Scored w' best'.1 best'.2 ∧
      ¬ k.Repairs best'.1.program := by
  obtain ⟨w', best', events, hw, hs', hbest', hassess, hevents⟩ :=
    evaluateGeneration_assessment h hs hpop hbest
  cases hassess with
  | unsolved scored members rejects =>
    subst members
    refine ⟨w', scored, _, hw, hs', rfl, rejects, rfl, hbest', ?_, ?_⟩
    · rw [hevents, closing, List.append_assoc]
    · exact (hleads.mono hw).foldl_better (fun c hc => (hpop c hc).mono hw) rejects

theorem finish_eq {state : SearchState} {r : R} {q : Quantity} {result : SearchResult R}
    (h : Returns (finish state c q) s result s') (hs : k.Sound w s.lab)
    (hc : seed.Enrolled w c) (hr : k.Scored w c r) :
    ∃ w' verdict, w ≤ w' ∧ k.Sound w' s'.lab ∧ s'.state = state ∧ s'.events = s.events ∧
      result = ⟨c, r, verdict, q, Scalar.origin⟩ ∧ (verdict = true ↔ k.Repairs c.program) := by
  replace h := returns_enter_bind.mp h
  obtain ⟨r', _, hfitness, h⟩ := returns_bind.mp h
  obtain ⟨w₁, lab₁, hw₁, hs₁, ⟨-, hscore⟩, rfl⟩ :=
    returns_inLab_sound hfitness hs (Candidate.keeps_fitness hc)
  obtain ⟨verdict, _, hverdict, h⟩ := returns_bind.mp h
  obtain ⟨w₂, lab₂, hw₂, hs₂, hrepair, rfl⟩ :=
    returns_inLab_sound hverdict hs₁ (Candidate.keeps_isRepair (hc.mono hw₁))
  obtain ⟨rfl, rfl⟩ := returns_pure.mp h
  obtain rfl := hscore.eq (hr.mono hw₁)
  exact ⟨w₂, verdict, hw₁.trans hw₂, hs₂, rfl, rfl, rfl, hrepair⟩

theorem giveUp_eq {state : SearchState} {best : Candidate R × R} {q : Quantity}
    {result : SearchResult R} (h : Returns (giveUp state q) s result s') (hs : k.Sound w s.lab)
    (hbest : s.best = some best) (hc : seed.Enrolled w best.1)
    (hr : k.Scored w best.1 best.2) :
    ∃ w' verdict, w ≤ w' ∧ k.Sound w' s'.lab ∧ s'.state = state ∧ s'.events = s.events ∧
      result = ⟨best.1, best.2, verdict, q, Scalar.origin⟩ ∧
      (verdict = true ↔ k.Repairs best.1.program) := by
  replace h := returns_get_bind.mp h
  simp only [hbest] at h
  exact finish_eq h hs hc hr

/-! ## Between generations -/

variable [RandomSource G] {settings : SearchSettings R}

theorem advance_none {generation : Int}
    (h : Returns (advance settings population generation) s none s') (hs : k.Sound w s.lab)
    (hpop : ∀ c ∈ population, seed.Enrolled w c) :
    ∃ w', w ≤ w' ∧ k.Sound w' s'.lab ∧ s'.best = s.best ∧ s'.events = s.events ∧
      ∀ c ∈ population, k.compiles c.program = false := by
  obtain ⟨cs, _, hfilter, h⟩ := returns_bind.mp h
  obtain ⟨w₁, lab₁, hw₁, hs₁, ⟨-, -, hout⟩, rfl⟩ :=
    returns_inLab_sound hfilter hs (repeats_diagonal_iff.mp (k.agreement.compilable hpop))
  split at h
  · rename_i hempty
    obtain ⟨-, rfl⟩ := returns_pure.mp h
    refine ⟨w₁, hw₁, hs₁, rfl, rfl, fun c hc => ?_⟩
    rcases hout c hc with hmem | hno
    · rw [List.isEmpty_iff.mp hempty] at hmem
      exact nomatch hmem
    · exact hno.symm
  · obtain ⟨bred, _, -, h⟩ := returns_bind.mp (returns_enter_bind.mp h)
    obtain ⟨next, _, -, h⟩ := returns_bind.mp (returns_enter_bind.mp h)
    replace h := returns_report_bind.mp h
    exact nomatch (returns_pure.mp h).1

theorem advance_some {generation : Int} {next : List (Candidate R)}
    (h : Returns (advance settings population generation) s (some next) s') (hs : k.Sound w s.lab)
    (hpop : ∀ c ∈ population, seed.Enrolled w c) :
    ∃ w', w ≤ w' ∧ k.Sound w' s'.lab ∧ s'.best = s.best ∧
      s'.events = s.events ++ [.generationStarted generation next.length] ∧
      (∃ n, settings.populationSize.int? = some n ∧ next.length = n.toNat) ∧
      ∀ c ∈ next, seed.Enrolled w' c ∧ k.compiles c.program := by
  obtain ⟨cs, _, hfilter, h⟩ := returns_bind.mp h
  obtain ⟨w₁, lab₁, hw₁, hs₁, ⟨hsub, hin, -⟩, rfl⟩ :=
    returns_inLab_sound hfilter hs (repeats_diagonal_iff.mp (k.agreement.compilable hpop))
  split at h
  · exact nomatch (returns_pure.mp h).1
  · have hcs : ∀ c ∈ cs, seed.Enrolled w₁ c := fun c hc => (hpop c (hsub.subset hc)).mono hw₁
    obtain ⟨bred, _, hbreed, h⟩ := returns_bind.mp (returns_enter_bind.mp h)
    obtain ⟨w₂, lab₂, hw₂, hs₂, ⟨hsize, hbred⟩, rfl⟩ :=
      returns_inLab_sound hbreed hs₁ (repeats_diagonal_iff.mp (k.agreement.breed hcs))
    obtain ⟨next', _, hmutate, h⟩ := returns_bind.mp (returns_enter_bind.mp h)
    obtain ⟨w₃, lab₃, hw₃, hs₃, ⟨hlen, hnext⟩, rfl⟩ :=
      returns_inLab_sound hmutate hs₂
        (repeats_diagonal_iff.mp (k.agreement.mutateSome settings fun c hc => (hbred c hc).1))
    replace h := returns_report_bind.mp h
    obtain ⟨heq, rfl⟩ := returns_pure.mp h
    obtain rfl := Option.some.inj heq
    refine ⟨w₃, (hw₁.trans hw₂).trans hw₃, hs₃, rfl, rfl, hlen ▸ hsize, fun c hc => ?_⟩
    refine ⟨(hnext c hc).1, ?_⟩
    rcases (hnext c hc).2 with hc | hyes
    · rcases (hbred c hc).2 with hc | hyes
      · exact (hin c hc).symm
      · exact hyes.symm
    · exact hyes.symm

theorem launch_eq (h : Returns (launch settings seed) s population s') (hs : k.Sound w s.lab)
    (hseed : seed.Enrolled w seed) :
    ∃ w' r, w ≤ w' ∧ k.Sound w' s'.lab ∧ k.Scored (k.settle w seed.program) seed r ∧
      k.settle w seed.program ≤ w' ∧ s'.best = some (seed, r) ∧
      s'.events = s.events ++ [.generationStarted 0 population.length] ∧
      (∃ mutants, population = seed :: mutants ∧
        mutants.length = settings.populationSize.ceiling - 1) ∧
      ∀ c ∈ population, seed.Enrolled w' c := by
  replace h := returns_enter_bind.mp h
  obtain ⟨_, _, heval, h⟩ := returns_bind.mp h
  have hall : ∀ c ∈ [seed], seed.Enrolled w c := by simpa using hseed
  obtain ⟨_, lab₁, -, hs₁, rfl, rfl⟩ := returns_inLab_sound heval hs (keeps_evaluateAll hall)
  obtain ⟨r, _, hfitness, h⟩ := returns_bind.mp (returns_modify_bind.mp h)
  obtain ⟨w₂, lab₂, hw₂, hs₂, ⟨rfl, hscore⟩, rfl⟩ :=
    returns_inLab_sound hfitness hs₁ (Candidate.keeps_fitness hseed)
  replace h := returns_setBest_bind.mp h
  obtain ⟨ds, _, hinitial, h⟩ := returns_bind.mp h
  obtain ⟨w₃, lab₃, hw₃, hs₃, ⟨mutants, rfl, hlen, hmem⟩, rfl⟩ :=
    returns_inLab_sound hinitial hs₂
      (repeats_diagonal_iff.mp (k.agreement.initial settings (hseed.mono hw₂)))
  replace h := returns_report_bind.mp h
  obtain ⟨rfl, rfl⟩ := returns_pure.mp h
  exact ⟨w₃, r, hw₂.trans hw₃, hs₃, hscore, hw₃, rfl, rfl, ⟨mutants, rfl, hlen⟩,
    fun c hc => (hmem c hc).1⟩

end Search

end GeneticRepair
