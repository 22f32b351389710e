import GeneticRepair.Proofs.Candidate.Variation
import GeneticRepair.Search.Genetic

/-!
# Populations of a search

In laboratories that agree the same populations are bred. Every population is full and holds
variants of the seed only; the first one begins with the seed, and whatever is new in a later one is
said to compile. Nothing is new as long as the seed itself is not said to compile.
-/

namespace GeneticRepair

theorem Quantity.ceiling_eq {q : Quantity} {n : Int} (h : q.int? = some n) :
    q.ceiling = n.toNat := by
  unfold int? at h
  unfold ceiling
  split at h
  · exact congrArg Int.toNat (Option.some.inj h)
  · cases h

variable {R T G : Type} {seed c : Candidate R} {rel : Ledger → Lab T G → Lab T G → Prop}
  {told : Program → Bool → Prop} {w : Ledger} {population : List (Candidate R)}

namespace Candidate

variable {d e : Candidate R}

private theorem same_iff : c.same d = true ↔ c.content = d.content := by
  rw [same, beq_iff_eq]

theorem same_refl (c : Candidate R) : c.same c = true :=
  same_iff.mpr rfl

theorem same_comm (c d : Candidate R) : c.same d = d.same c := by
  rw [same, same, Bool.beq_comm]

theorem same_trans (h : c.same d = true) (h' : d.same e = true) : c.same e = true :=
  same_iff.mpr ((same_iff.mp h).trans (same_iff.mp h'))

end Candidate

namespace Search

theorem distinct_subset (cs : List (Candidate R)) : distinct cs ⊆ cs := by
  induction cs with
  | nil => exact List.Subset.refl _
  | cons c cs ih =>
    rw [distinct]
    exact List.cons_subset_cons c fun d hd => ih (List.mem_of_mem_filter hd)

theorem removeSame_sublist (c : Candidate R) (cs : List (Candidate R)) :
    (removeSame c cs).Sublist cs := by
  induction cs with
  | nil => exact List.Sublist.refl _
  | cons d ds ih =>
    rw [removeSame]
    split
    · exact List.sublist_cons_self d ds
    · exact ih.cons_cons d

theorem repeats_unevaluated {W : Type} [Preorder W] {rel : W → Lab T G → Lab T G → Prop} {w : W}
    (h : ∀ w', w ≤ w' → ∀ c ∈ population, Repeats rel w' c.isEvaluated fun _ _ => True) :
    Repeats rel w (unevaluated population) fun _ cs => cs.Sublist population := by
  refine (Repeats.filterM (P := fun _ _ => True) fun w' hw' c hc => ?_).mono fun _ _ _ h => h.1
  exact (h w' hw' c hc).bind fun _ _ _ _ => repeats_pure trivial

theorem repeats_count (q : Quantity) :
    Repeats rel w (count q) fun w' n => w' = w ∧ q.int? = some n := by
  unfold count
  split
  · rename_i n hn
    exact repeats_pure ⟨rfl, hn⟩
  · exact repeats_throw

end Search

namespace Agreement

variable [Toolchain T] [Scalar R] (h : Agreement seed rel told)
include h

theorem compilable (hpop : ∀ c ∈ population, seed.Enrolled w c) :
    Repeats rel w (population.filterM fun c => c.isCompilable) fun _ cs =>
      cs.Sublist population ∧ (∀ c ∈ cs, told c.program true) ∧
        ∀ c ∈ population, c ∈ cs ∨ told c.program false := by
  refine Repeats.filterM fun w' hw' c hc => ?_
  exact (h.isCompilable ((hpop c hc).mono hw')).mono fun _ _ _ htold => htold.2

variable [RandomSource G] {settings : SearchSettings R}

/-! ## Mutants -/

private theorem compilableMutant (hc : seed.Enrolled w c) (attempts : Nat) :
    Repeats rel w (Search.compilableMutant c attempts) fun w' d =>
      seed.Enrolled w' d ∧ (d = c ∨ told c.program true ∧ told d.program true) := by
  induction attempts generalizing w with
  | zero => exact repeats_pure ⟨hc, .inl rfl⟩
  | succ attempts ih =>
    refine (h.mutate hc).bind fun w₁ d hw₁ hd => ?_
    refine (h.isCompilable hd.1).bind ?_
    rintro _ b _ ⟨rfl, htold⟩
    cases b with
    | true => exact repeats_pure ⟨hd.1, hd.2.imp_right fun hyes => ⟨hyes, htold⟩⟩
    | false => exact ih (hc.mono hw₁)

private theorem mutant (hc : seed.Enrolled w c) :
    Repeats rel w (Search.mutant settings c) fun w' d =>
      seed.Enrolled w' d ∧ (d = c ∨ told c.program true ∧ told d.program true) := by
  refine (Search.repeats_count _).bind ?_
  rintro _ n _ ⟨rfl, -⟩
  exact h.compilableMutant hc n.toNat

private theorem fillWith (hc : seed.Enrolled w c) (missing : Nat) :
    Repeats rel w (Search.fillWith settings c missing) fun w' ds =>
      ds.length = missing ∧ ∀ d ∈ ds,
        seed.Enrolled w' d ∧ (d = c ∨ told c.program true ∧ told d.program true) := by
  induction missing generalizing w with
  | zero => exact repeats_pure (by simp)
  | succ missing ih =>
    refine (h.mutant hc).bind fun w₁ d hw₁ hd => ?_
    refine (ih (hc.mono hw₁)).bind fun w₂ ds hw₂ hds => repeats_pure ⟨by simp [hds.1], ?_⟩
    intro d' hd'
    rcases List.mem_cons.mp hd' with rfl | hd'
    · exact ⟨hd.1.mono hw₂, hd.2⟩
    · exact hds.2 d' hd'

theorem initial (settings : SearchSettings R) (hseed : seed.Enrolled w seed) :
    Repeats rel w (Search.initial settings seed) fun w' ds =>
      ∃ mutants, ds = seed :: mutants ∧ mutants.length = settings.populationSize.ceiling - 1 ∧
        ∀ d ∈ ds,
          seed.Enrolled w' d ∧ (d = seed ∨ told seed.program true ∧ told d.program true) := by
  refine (h.fillWith hseed _).bind fun w₁ mutants hw₁ hmutants => ?_
  refine repeats_pure ⟨mutants, rfl, hmutants.1, ?_⟩
  intro d hd
  rcases List.mem_cons.mp hd with rfl | hd
  · exact ⟨hseed.mono hw₁, .inl rfl⟩
  · exact hmutants.2 d hd

theorem mutateSome (settings : SearchSettings R) (hpop : ∀ c ∈ population, seed.Enrolled w c) :
    Repeats rel w (Search.mutateSome settings population) fun w' ds =>
      ds.length = population.length ∧
        ∀ d ∈ ds, seed.Enrolled w' d ∧ (d ∈ population ∨ told d.program true) := by
  refine Repeats.mapM (fun hw hd => ⟨hd.1.mono hw, hd.2⟩) fun w₁ hw₁ c hc => ?_
  have hc₁ := (hpop c hc).mono hw₁
  refine (h.happens _).bind ?_
  rintro _ _ _ rfl
  split
  · refine (h.mutant hc₁).mono ?_
    rintro w₂ d _ ⟨hd, rfl | hcompiles⟩
    · exact ⟨hd, .inl hc⟩
    · exact ⟨hd, .inr hcompiles.2⟩
  · exact repeats_pure ⟨hc₁, .inl hc⟩

/-! ## Breeding -/

private theorem selectOther {x y : Candidate R} {pool : List (Candidate R)} (fuel : Nat)
    (hpop : ∀ c ∈ population, seed.Enrolled w c) (hy : y ∈ population) (hpool : pool ⊆ population) :
    Repeats rel w (Search.selectOther Candidate.select x fuel y pool) fun _ z => z ∈ population := by
  induction fuel generalizing w y pool with
  | zero => exact repeats_pure hy
  | succ fuel ih =>
    rw [Search.selectOther]
    split
    · refine (h.select fun c hc => hpop c (hpool hc)).bind fun w₁ z hw₁ hz => ?_
      refine ih (fun c hc => (hpop c hc).mono hw₁) (hpool hz) ?_
      exact List.Subset.trans (Search.removeSame_sublist z pool).subset hpool
    · exact repeats_pure hy

private theorem parents (hpop : ∀ c ∈ population, seed.Enrolled w c) :
    Repeats rel w (Search.parents Candidate.select population) fun _ xy =>
      xy.1 ∈ population ∧ xy.2 ∈ population := by
  refine (h.select hpop).bind fun w₁ x hw₁ hx => ?_
  have hpool : (if population.length > 1 then Search.removeSame x population else population) ⊆
      population := by
    split
    · exact (Search.removeSame_sublist x population).subset
    · exact List.Subset.refl _
  have h₁ : ∀ c ∈ population, seed.Enrolled w₁ c := fun c hc => (hpop c hc).mono hw₁
  refine (h.select fun c hc => h₁ c (hpool hc)).bind fun w₂ y hw₂ hy => ?_
  have h₂ : ∀ c ∈ population, seed.Enrolled w₂ c := fun c hc => (h₁ c hc).mono hw₂
  refine (h.selectOther _ h₂ (hpool hy)
    (List.Subset.trans (Search.removeSame_sublist y _).subset hpool)).bind fun w₃ z _ hz => ?_
  exact repeats_pure ⟨hx, hz⟩

private theorem breedUntil (fuel : Nat) {offspring : List (Candidate R)}
    (hpop : ∀ c ∈ population, seed.Enrolled w c)
    (hoff : ∀ d ∈ offspring, seed.Enrolled w d ∧ (d ∈ population ∨ told d.program true)) :
    Repeats rel w (Search.breedUntil settings Candidate.select population fuel offspring) fun w' ds =>
      (settings.populationSize.ceiling ≤ ds.length ∨ offspring.length + 2 * fuel ≤ ds.length) ∧
        ∀ d ∈ ds, seed.Enrolled w' d ∧ (d ∈ population ∨ told d.program true) := by
  induction fuel generalizing w offspring with
  | zero => exact repeats_pure ⟨.inr (by simp), hoff⟩
  | succ fuel ih =>
    rw [Search.breedUntil]
    split
    · refine (h.parents hpop).bind ?_
      rintro w₁ ⟨x, y⟩ hw₁ ⟨hx, hy⟩
      have h₁ : ∀ c ∈ population, seed.Enrolled w₁ c := fun c hc => (hpop c hc).mono hw₁
      refine (h.crossover (h₁ x hx) (h₁ y hy)).bind ?_
      rintro w₂ ⟨u, v⟩ hw₂ ⟨hu, hv⟩
      have huv : ∀ d ∈ [u, v], seed.Enrolled w₂ d := by
        intro d hd
        rcases List.mem_pair.mp hd with rfl | rfl
        · exact hu
        · exact hv
      refine (h.compilable huv).bind ?_
      rintro w₃ children hw₃ ⟨hsub, hcompiles, -⟩
      have h₃ : ∀ c ∈ population, seed.Enrolled w₃ c := fun c hc =>
        ((h₁ c hc).mono hw₂).mono hw₃
      refine (ih h₃ ?_).mono ?_
      · intro d hd
        simp only [List.mem_append] at hd
        rcases hd with (hd | hd) | hd
        · exact ⟨(((hoff d hd).1.mono hw₁).mono hw₂).mono hw₃, (hoff d hd).2⟩
        · have hmem : d ∈ population := by
            rcases List.mem_pair.mp hd with rfl | rfl
            · exact hx
            · exact hy
          exact ⟨h₃ d hmem, .inl hmem⟩
        · exact ⟨(huv d (hsub.subset hd)).mono hw₃, .inr (hcompiles d hd)⟩
      · rintro w₄ ds _ ⟨hlen | hlen, hds⟩
        · exact ⟨.inl hlen, hds⟩
        · refine ⟨.inr ?_, hds⟩
          simp only [List.length_append, List.length_cons, List.length_nil] at hlen
          omega
    · rename_i hfull
      exact repeats_pure ⟨.inl (by omega), hoff⟩

theorem breed (hpop : ∀ c ∈ population, seed.Enrolled w c) :
    Repeats rel w (Search.breed settings population) fun w' ds =>
      (∃ n, settings.populationSize.int? = some n ∧ ds.length = n.toNat) ∧
        ∀ d ∈ ds, seed.Enrolled w' d ∧ (d ∈ population ∨ told d.program true) := by
  refine (h.breedUntil _ hpop (by simp)).bind ?_
  rintro w₁ ds _ ⟨hlen, hds⟩
  refine (Search.repeats_count _).bind ?_
  rintro _ n _ ⟨rfl, hn⟩
  refine repeats_pure ⟨⟨n, hn, ?_⟩, fun d hd => hds d (List.mem_of_mem_take hd)⟩
  rw [Quantity.ceiling_eq hn] at hlen
  simp only [List.length_nil] at hlen
  rw [List.length_take]
  omega

end Agreement

end GeneticRepair
