import GeneticRepair.Proofs.Search.Course
import GeneticRepair.Proofs.Search.Population

/-!
# Searches that evaluate in different ways

If laboratories agree, and still do after a population has been evaluated in one way in the first
and in another way in the second, then searches that evaluate in these ways come to the same: they
report the same events and have the same result.
-/

namespace GeneticRepair

variable {R T G α : Type} {seed c : Candidate R} {rel : Ledger → Lab T G → Lab T G → Prop}
  {told : Program → Bool → Prop} {w : Ledger} {population : List (Candidate R)}

/-- Evaluating a population in one way or the other leaves related laboratories related. -/
def Interchangeable (seed : Candidate R) (rel : Ledger → Lab T G → Lab T G → Prop)
    (evaluate evaluate' : List (Candidate R) → Action T G Unit) : Prop :=
  ∀ w population, (∀ c ∈ population, seed.Enrolled w c) →
    Mirrors rel w (evaluate population) (evaluate' population) fun _ _ _ => True

namespace Search

/-- Searches that differ in their laboratories only, which are related. -/
inductive Related (seed : Candidate R) (rel : Ledger → Lab T G → Lab T G → Prop) (w : Ledger) :
    Search R T G → Search R T G → Prop
  | mk {s : Search R T G} {lab' : Lab T G} (labs : rel w s.lab lab')
      (best : ∀ x, s.best = some x → seed.Enrolled w x.1) :
      Related seed rel w s { s with lab := lab' }

private theorem mirrors_inLab {x y : Action T G α} {post : Ledger → α → α → Prop}
    (h : Mirrors rel w x y post) :
    Mirrors (Related seed rel) w (inLab x : Searching R T G α) (inLab y) post := by
  rintro s _ a t ⟨hlabs, hbest⟩ hreturns
  obtain ⟨lab, hx, rfl⟩ := returns_inLab.mp hreturns
  obtain ⟨b, lab', hy, w', hw, hlabs', hpost⟩ := h _ _ a lab hlabs hx
  refine ⟨b, { s with lab := lab' }, returns_inLab.mpr ⟨lab', hy, rfl⟩, w', hw, ?_, hpost⟩
  exact ⟨hlabs', fun x hx => (hbest x hx).mono hw⟩

private theorem repeats_modify {f : Search R T G → Search R T G}
    (hlab : ∀ s lab, f { s with lab } = { f s with lab })
    (hbest : ∀ s x, (f s).best = some x → s.best = some x ∨ seed.Enrolled w x.1) :
    Repeats (Related seed rel) w (modify f : Searching R T G Unit) fun w' _ => w' = w := by
  refine mirrors_of_returns ?_
  rintro s _ ⟨hlabs, hmembers⟩
  rename_i lab'
  refine ⟨(), f s, (), _, returns_modify.mpr rfl, returns_modify.mpr rfl, w, le_rfl, ?_, rfl, rfl⟩
  have hsame : (f s).lab = s.lab := (congrArg Search.lab (hlab s s.lab) :)
  rw [hlab s lab']
  refine .mk (hsame ▸ hlabs) fun x hx => ?_
  rcases hbest s x hx with hx | hx
  · exact hmembers x hx
  · exact hx

private theorem repeats_report (e : Event R) :
    Repeats (Related seed rel) w (report e : Searching R T G Unit) fun w' _ => w' = w :=
  repeats_modify (fun _ _ => rfl) fun _ _ h => .inl h

private theorem repeats_enter (state : SearchState) :
    Repeats (Related seed rel) w (enter state : Searching R T G Unit) fun w' _ => w' = w :=
  repeats_modify (fun _ _ => rfl) fun _ _ h => .inl h

private theorem repeats_start :
    Repeats (Related seed rel) w
      (modify fun s => { s with started := true } : Searching R T G Unit) fun w' _ => w' = w :=
  repeats_modify (fun _ _ => rfl) fun _ _ h => .inl h

private theorem repeats_setBest (hc : seed.Enrolled w c) (fitness : R) :
    Repeats (Related seed rel) w (setBest c fitness : Searching R T G Unit) fun w' _ => w' = w := by
  refine repeats_modify (fun _ _ => rfl) fun _ x hx => .inr ?_
  obtain rfl := Option.some.inj hx
  exact hc

private theorem mirrors_get :
    Mirrors (Related seed rel) w (get : Searching R T G (Search R T G)) get fun w' s s' =>
      w' = w ∧ s'.started = s.started ∧ s'.best = s.best ∧
        ∀ x, s.best = some x → seed.Enrolled w x.1 := by
  refine mirrors_of_returns ?_
  rintro s _ ⟨hlabs, hbest⟩
  exact ⟨s, s, _, _, returns_get.mpr ⟨rfl, rfl⟩, returns_get.mpr ⟨rfl, rfl⟩, w, le_rfl,
    ⟨hlabs, hbest⟩, rfl, rfl, rfl, hbest⟩

end Search

namespace Agreement

open Search

variable [Toolchain T] [Scalar R] (h : Agreement seed rel told)
include h

/-! ## One generation -/

private theorem scoreAll (hpop : ∀ c ∈ population, seed.Enrolled w c) (generation : Int) :
    Repeats (Related seed rel) w (Search.scoreAll generation population) fun w' o =>
      ∀ c ∈ o, seed.Enrolled w' c := by
  induction population generalizing w with
  | nil => exact repeats_pure (by simp)
  | cons c cs ih =>
    have hc := hpop c List.mem_cons_self
    refine Repeats.bind (mirrors_inLab (h.fitness hc)) fun w₁ r hw₁ _ => ?_
    refine Repeats.bind (mirrors_inLab (h.isRepair (hc.mono hw₁))) fun w₂ verdict hw₂ _ => ?_
    have hw := hw₁.trans hw₂
    refine (repeats_report _).bind ?_
    rintro _ _ - rfl
    cases verdict with
    | true =>
      refine (repeats_setBest (hc.mono hw) r).bind ?_
      rintro _ _ - rfl
      refine (repeats_report _).bind ?_
      rintro _ _ - rfl
      refine repeats_pure fun d hd => ?_
      obtain rfl := Option.some.inj hd
      exact hc.mono hw
    | false =>
      have hrest := ih fun d hd => (hpop d (List.mem_cons_of_mem c hd)).mono hw
      refine mirrors_get.bind ?_
      rintro _ s s' - ⟨rfl, -, hbest, -⟩
      simp only [hbest]
      have hset := Repeats.bind (repeats_setBest (hc.mono hw) r) fun _ _ _ hsame => hsame ▸ hrest
      cases s.best with
      | none => exact hset
      | some best =>
        dsimp only
        split
        · exact hset
        · exact hrest

variable {evaluate evaluate' : List (Candidate R) → Action T G Unit}

theorem evaluateGenerationBy (he : Interchangeable seed rel evaluate evaluate')
    (hpop : ∀ c ∈ population, seed.Enrolled w c) (generation : Int) :
    Mirrors (Related seed rel) w (Search.evaluateGenerationBy evaluate population generation)
      (Search.evaluateGenerationBy evaluate' population generation)
      (Same fun w' o => ∀ c ∈ o, seed.Enrolled w' c) := by
  refine (repeats_enter _).then ?_
  rintro _ _ - rfl
  refine (mirrors_inLab (he _ population hpop)).bind fun w₁ _ _ hw₁ _ => ?_
  refine (h.scoreAll (fun c hc => (hpop c hc).mono hw₁) generation).bind fun w₂ o hw₂ ho => ?_
  cases o with
  | some c => exact repeats_pure ho
  | none =>
    refine mirrors_get.bind ?_
    rintro _ s s' - ⟨rfl, -, hbest, -⟩
    rw [hbest]
    split
    · exact repeats_throw
    · refine (repeats_report _).bind ?_
      rintro _ _ - rfl
      exact repeats_pure (by simp)

/-! ## The end -/

private theorem finish (hc : seed.Enrolled w c) (state : SearchState) (generations : Quantity) :
    Repeats (Related seed rel) w (Search.finish state c generations) fun _ _ => True := by
  refine (repeats_enter _).bind ?_
  rintro _ _ - rfl
  refine Repeats.bind (mirrors_inLab (h.fitness hc)) fun w₁ r hw₁ _ => ?_
  refine Repeats.bind (mirrors_inLab (h.isRepair (hc.mono hw₁))) fun _ _ _ _ => ?_
  exact repeats_pure trivial

private theorem giveUp (state : SearchState) (generations : Quantity) :
    Repeats (Related seed rel) w (Search.giveUp state generations) fun _ _ => True := by
  refine mirrors_get.bind ?_
  rintro _ s s' - ⟨rfl, -, hbest, hmembers⟩
  rw [hbest]
  cases hs : s.best with
  | none => exact repeats_throw
  | some best => exact h.finish (hmembers best hs) state generations

/-! ## A whole search -/

variable [RandomSource G] {settings : SearchSettings R}

theorem advance (hpop : ∀ c ∈ population, seed.Enrolled w c) (generation : Int) :
    Repeats (Related seed rel) w (Search.advance settings population generation) fun w' next =>
      (next = none → ∀ c ∈ population, told c.program false) ∧
      ∀ population' ∈ next,
        (∃ n, settings.populationSize.int? = some n ∧ population'.length = n.toNat) ∧
        ∀ c ∈ population', seed.Enrolled w' c ∧ told c.program true := by
  refine Repeats.bind (mirrors_inLab (h.compilable hpop)) fun w₁ cs hw₁ hcs => ?_
  obtain ⟨hsub, hin, hout⟩ := hcs
  split
  · rename_i hempty
    refine repeats_pure ⟨?_, by simp⟩
    intro _ c hc
    rw [List.isEmpty_iff.mp hempty] at hout
    simpa using hout c hc
  · have hcs' : ∀ c ∈ cs, seed.Enrolled w₁ c := fun c hc => (hpop c (hsub.subset hc)).mono hw₁
    refine (repeats_enter _).bind ?_
    rintro _ _ - rfl
    refine Repeats.bind (mirrors_inLab (h.breed hcs')) fun w₂ bred _ hbred => ?_
    obtain ⟨hsize, hbred⟩ := hbred
    refine (repeats_enter _).bind ?_
    rintro _ _ - rfl
    have hmutated := h.mutateSome settings fun c hc => (hbred c hc).1
    refine Repeats.bind (mirrors_inLab hmutated) fun w₃ next _ hnext => ?_
    obtain ⟨hlen, hnext⟩ := hnext
    refine (repeats_report _).bind ?_
    rintro _ _ - rfl
    refine repeats_pure ⟨nofun, fun population' hpop' => ?_⟩
    obtain rfl := Option.some.inj hpop'
    refine ⟨hlen ▸ hsize, fun c hc => ⟨(hnext c hc).1, ?_⟩⟩
    rcases (hnext c hc).2 with hc | hyes
    · rcases (hbred c hc).2 with hc | hyes
      · exact hin c hc
      · exact hyes
    · exact hyes

theorem launch (he : Interchangeable seed rel evaluateAll evaluateAll)
    (hseed : seed.Enrolled w seed) :
    Repeats (Related seed rel) w (Search.launch settings seed) fun w' population =>
      ∃ mutants, population = seed :: mutants ∧
        mutants.length = settings.populationSize.ceiling - 1 ∧
        ∀ c ∈ population,
          seed.Enrolled w' c ∧ (c = seed ∨ told seed.program true ∧ told c.program true) := by
  have hall : ∀ c ∈ [seed], seed.Enrolled w c := by simpa using hseed
  refine (repeats_enter _).bind ?_
  rintro _ _ - rfl
  refine (mirrors_inLab (he _ [seed] hall)).bind fun w₁ _ _ hw₁ _ => ?_
  refine (repeats_setBest (hseed.mono hw₁) Scalar.origin).bind ?_
  rintro _ _ - rfl
  refine Repeats.bind (mirrors_inLab (h.fitness (hseed.mono hw₁))) fun w₂ r hw₂ _ => ?_
  have hseed₂ := (hseed.mono hw₁).mono hw₂
  refine (repeats_setBest hseed₂ r).bind ?_
  rintro _ _ - rfl
  have hinitial := h.initial settings hseed₂
  refine Repeats.bind (mirrors_inLab hinitial) fun w₃ population _ hpop => ?_
  refine (repeats_report _).bind ?_
  rintro _ _ - rfl
  exact repeats_pure hpop

variable {evaluate evaluate' : Int → List (Candidate R) → Action T G Unit}

private theorem generationsBy (he : ∀ n, Interchangeable seed rel (evaluate n) (evaluate' n))
    (hpop : ∀ c ∈ population, seed.Enrolled w c) (generation : Int) (left : Nat) :
    Mirrors (Related seed rel) w
      (Search.generationsBy settings evaluate population generation left)
      (Search.generationsBy settings evaluate' population generation left)
      (Same fun _ _ => True) := by
  induction left generalizing w population generation with
  | zero => exact h.giveUp _ _
  | succ left ih =>
    refine (h.advance hpop generation).then fun w₁ next? _ hnext? => ?_
    cases next? with
    | none => exact h.giveUp _ _
    | some next =>
      have hnext : ∀ c ∈ next, seed.Enrolled w₁ c := fun c hc => ((hnext?.2 next rfl).2 c hc).1
      refine (h.evaluateGenerationBy (he generation) hnext generation).then ?_
      intro w₂ repair? hw₂ hrepair
      cases repair? with
      | some repair => exact h.finish (hrepair repair rfl) _ _
      | none => exact ih (fun c hc => (hnext c hc).mono hw₂) (generation + 1)

private theorem runBy (hone : Interchangeable seed rel evaluateAll evaluateAll)
    (he : ∀ n, Interchangeable seed rel (evaluate n) (evaluate' n))
    (hseed : seed.Enrolled w seed) :
    Mirrors (Related seed rel) w (Search.runBy settings evaluate seed)
      (Search.runBy settings evaluate' seed) (Same fun _ _ => True) := by
  refine (h.launch hone hseed).then fun w₁ population _ hlaunched => ?_
  obtain ⟨mutants, -, -, hmembers⟩ := hlaunched
  have hpop : ∀ c ∈ population, seed.Enrolled w₁ c := fun c hc => (hmembers c hc).1
  refine (h.evaluateGenerationBy (he 0) hpop 0).then fun w₂ repair? hw₂ hrepair => ?_
  cases repair? with
  | some repair => exact h.finish (hrepair repair rfl) _ _
  | none =>
    refine Mirrors.then (mirrors_inLab (repeats_count _)) ?_
    rintro _ limit - ⟨rfl, -⟩
    exact h.generationsBy he (fun c hc => (hpop c hc).mono hw₂) 1 limit.toNat

theorem searchBy (settings : SearchSettings R)
    (hone : Interchangeable seed rel evaluateAll evaluateAll)
    (he : ∀ n, Interchangeable seed rel (evaluate n) (evaluate' n))
    (hseed : seed.Enrolled w seed) :
    Mirrors (Related seed rel) w (Search.searchBy settings evaluate seed)
      (Search.searchBy settings evaluate' seed) (Same fun _ _ => True) := by
  refine mirrors_get.bind ?_
  rintro _ s s' - ⟨rfl, hstarted, -, -⟩
  rw [hstarted]
  split
  · exact mirrors_throw
  · dsimp only
    refine repeats_start.then ?_
    rintro _ _ - rfl
    refine (repeats_report _).then ?_
    rintro _ _ - rfl
    refine (h.runBy hone he hseed).then fun _ result _ _ => ?_
    refine (repeats_report _).bind ?_
    rintro _ _ - rfl
    exact repeats_pure trivial

end Agreement

end GeneticRepair
