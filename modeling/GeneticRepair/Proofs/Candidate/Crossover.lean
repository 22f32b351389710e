import GeneticRepair.Candidate.Crossover
import GeneticRepair.Proofs.Candidate.Mutation

/-!
# What crossover comes to

Crossover ends with one descendant of each candidate. If a module that comes of an exchange has no
text, the candidates stay as they are. Only a limit of attempts that is no integer makes it fail.
-/

namespace GeneticRepair.Candidate

open GeneticRepair.Code

variable {R T G : Type} [Toolchain T] {k : Contract T} {c d : Candidate R}
  {failure : Failure → Prop}

def Offspring (c d : Candidate R) (uv : Candidate R × Candidate R) : Prop :=
  c.Kin uv.1 ∧ d.Kin uv.2

private theorem offspring_self (c d : Candidate R) : c.Offspring d (c, d) :=
  ⟨⟨rfl, rfl, rfl⟩, ⟨rfl, rfl, rfl⟩⟩

private theorem ends_derive_both (xs ys : List String) :
    Ends (k.Binds (G := G)) (do return (← c.derive xs, ← d.derive ys)) (c.Offspring d) failure := by
  refine (ends_derive xs).bind fun u hu => (ends_derive ys).bind fun v hv => ?_
  exact ends_pure ⟨hu.1, hv.1⟩

omit [Toolchain T] in
theorem returns_derive_both (xs ys : List String) (s : Lab T G) :
    Returns (do return (← c.derive xs, ← d.derive ys)) s
      ({ c with lines := xs, memo := s.memos.size },
       { d with lines := ys, memo := s.memos.size + 1 })
      { s with memos := (s.memos.push .empty).push .empty } := by
  have hsize : (s.memos.push .empty).size = s.memos.size + 1 := Array.size_push _
  rw [← hsize]
  rfl

variable [RandomSource G]

private theorem ends_crossLines :
    Ends (k.Binds (G := G)) (c.crossLines d) (c.Offspring d) failure := by
  have hcut : ∀ limit,
      Ends (k.Binds (G := G)) (Lab.draw (Random.below limit)) (fun _ => True) failure :=
    fun _ => Lab.ends_draw fun _ => trivial
  unfold crossLines
  dsimp only
  split
  · exact ends_pure (offspring_self c d)
  · exact (hcut _).bind fun cut _ => ends_derive_both _ _

private theorem ends_drawPair (x : Statement) (xs : List Statement) (y : Statement)
    (ys : List Statement)
    (attempts : Nat) :
    Ends (k.Binds (G := G)) (drawPair x xs y ys attempts)
      (fun r => ∀ pair ∈ r, pair.1 ∈ x :: xs ∧ pair.2 ∈ y :: ys) failure := by
  induction attempts with
  | zero => exact ends_pure (by simp)
  | succ attempts ih =>
    refine (ends_oneOf x xs).bind fun mine hmine => (ends_oneOf y ys).bind fun theirs htheirs => ?_
    split
    · refine ends_pure fun pair hpair => ?_
      obtain rfl := Option.some.inj hpair
      exact ⟨hmine, htheirs⟩
    · exact ih

private theorem exists_exchangedLines? {m n : Node} {mine theirs : Statement} (hm : m.Shaped)
    (hn : n.Shaped) (hmine : mine ∈ m.statements) (htheirs : theirs ∈ n.statements) :
    ∃ r, exchangedLines? m n mine theirs = .ok r := by
  obtain ⟨x, y, hxy⟩ := Node.exists_exchange hm hn hmine htheirs
  rw [exchangedLines?, hxy, ok_bind]
  dsimp only
  split
  · exact ⟨_, rfl⟩
  · exact ⟨_, rfl⟩

private theorem ends_crossStatements {maxAttempts : Quantity} {m n : Node} (hm : m.Shaped)
    (hn : n.Shaped) :
    Ends (k.Binds (G := G)) (crossStatements maxAttempts c d m n) (c.Offspring d)
      fun e => e = .fractionalCount ∧ maxAttempts.int? = none := by
  unfold crossStatements
  split
  · rename_i x xs y ys hx hy
    split
    · rename_i hnone
      exact ends_throw ⟨rfl, hnone⟩
    · refine (ends_drawPair x xs y ys _).bind fun pair hpair => ?_
      cases pair with
      | none => exact ends_pure (offspring_self c d)
      | some pair =>
        obtain ⟨hmine, htheirs⟩ := hpair pair rfl
        rw [← hx] at hmine
        rw [← hy] at htheirs
        obtain ⟨r, hr⟩ := exists_exchangedLines? hm hn (List.mem_filter.mp hmine).1
          (List.mem_filter.mp htheirs).1
        dsimp only
        rw [hr]
        cases r with
        | none => exact ends_pure (offspring_self c d)
        | some lines => exact ends_derive_both lines.1 lines.2
  · exact ends_pure (offspring_self c d)

/-- A crossover does not fail for want of a text. -/
theorem ends_crossover :
    Ends (k.Binds (G := G)) (c.crossover d) (c.Offspring d) fun e => e = .fractionalCount ∧
      ∃ q, c.strategies.crossover = .structural q ∧ q.int? = none := by
  unfold crossover
  cases hcrossover : c.strategies.crossover with
  | raw => exact ends_crossLines
  | structural maxAttempts =>
    dsimp only
    cases hm : c.parsed? with
    | none => exact ends_pure (offspring_self c d)
    | some m =>
      cases hn : d.parsed? with
      | none => exact ends_pure (offspring_self c d)
      | some n =>
        refine (ends_crossStatements (shaped_of_parsed? hm) (shaped_of_parsed? hn)).mono
          (fun _ h => h) ?_
        rintro _ ⟨rfl, hnone⟩
        exact ⟨rfl, maxAttempts, rfl, hnone⟩

end GeneticRepair.Candidate
