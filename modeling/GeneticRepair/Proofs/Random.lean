import GeneticRepair.Proofs.Outcome
import GeneticRepair.Random.Source
import Mathlib.Data.List.Basic

/-!
# What is drawn

An item that is drawn from a list is a member of it, a shuffle reorders, and a key that is drawn by
its weight is one of the keys: drawing it fails only if the weights cannot be added up.

Two positions are drawn in one of two ways. Few positions are kept in a pool, where the last one
takes the place of the first one drawn. Of many positions the second one is drawn again as long as
it equals the first, however often that is. Either way the positions that are drawn are distinct,
whenever the draw ends.
-/

namespace GeneticRepair

theorem getD_mem {α : Type} {x : α} {xs : List α} (hx : x ∈ xs) (i : Nat) : xs.getD i x ∈ xs := by
  rw [List.getD_eq_getElem?_getD]
  cases h : xs[i]? with
  | none => exact hx
  | some y => exact List.mem_of_getElem? h

namespace Random

variable {R G K α : Type} [RandomSource G]

theorem choose_mem (x : α) (xs : List α) (g : G) : ((choose x xs).run g).1 ∈ x :: xs :=
  getD_mem List.mem_cons_self _

private theorem swapIfInBounds_perm (xs : Array α) (i j : Nat) :
    (xs.swapIfInBounds i j).toList.Perm xs.toList := by
  rw [Array.swapIfInBounds_def]
  split
  · split
    · exact Array.perm_iff_toList_perm.mp (Array.swap_perm _ _)
    · exact List.Perm.refl _
  · exact List.Perm.refl _

private theorem shuffleFrom_perm (i : Nat) (xs : Array α) (g : G) :
    ((shuffleFrom i xs).run g).1.toList.Perm xs.toList := by
  induction i generalizing xs g with
  | zero => exact List.Perm.refl _
  | succ i ih => exact (ih _ _).trans (swapIfInBounds_perm xs (i + 1) _)

theorem shuffle_perm (xs : List α) (g : G) : ((shuffle xs).run g).1.Perm xs :=
  shuffleFrom_perm _ _ g

private theorem keyBeyond_mem [Scalar R] {bound sum : R} {fallback key : K} {entries : List (K × R)}
    (h : keyBeyond bound fallback sum entries = .ok key) :
    key = fallback ∨ key ∈ entries.map Prod.fst := by
  induction entries generalizing fallback sum with
  | nil => exact .inl (Except.ok.inj h).symm
  | cons entry entries ih =>
    obtain ⟨k, weight⟩ := entry
    cases hsum : Scalar.add sum weight with
    | error e =>
      rw [keyBeyond, hsum] at h
      cases h
    | ok total =>
      rw [keyBeyond, hsum] at h
      change (if Scalar.less bound total then pure k else keyBeyond bound k total entries) = _ at h
      split at h
      · obtain rfl := Except.ok.inj h
        simp
      · rcases ih h with rfl | hmem
        · simp
        · simp [hmem]

/-- What is drawn is one of the keys, and only the calculations of a draw can fail: that of the total,
that of the bound, and the sums on the way to it. -/
theorem ends_weightedChoice_of [Scalar R] (total : R → Prop) (failure : ArithmeticError → Prop)
    {entry : K × R} {entries : List (K × R)}
    (hsum : Meets total failure (Scalar.sum ((entry :: entries).map Prod.snd)))
    (hbound : ∀ k t, total t → Meets (fun _ => True) failure (Scalar.mul (Scalar.ofUnit k) t))
    (hsearch : ∀ bound, ∀ shuffled : List (K × R), shuffled.Perm (entry :: entries) →
      Meets (fun _ => True) failure (keyBeyond bound entry.1 Scalar.origin shuffled)) :
    Ends (fun _ : G => True) (weightedChoice (entry :: entries))
      (fun key => key ∈ (entry :: entries).map Prod.fst)
      fun e => ∃ a, failure a ∧ e = .arithmetic a := by
  have hcalculated : ∀ {β : Type} {value : β → Prop} {a : Except ArithmeticError β},
      Meets value failure a → Ends (fun _ : G => True) (calculated a)
        (fun b => value b ∧ a = .ok b) fun e => ∃ a, failure a ∧ e = .arithmetic a := by
    intro β value a ha
    cases a with
    | ok b => exact ends_pure ⟨ha, rfl⟩
    | error e => exact ends_throw ⟨e, ha, rfl⟩
  have hlift : ∀ {β : Type} {act : StateM G β} {P : β → Prop}, (∀ g, P (act.run g).1) →
      Ends (fun _ : G => True) (liftM act : ExceptT SamplingError (StateM G) β) P
        fun e => ∃ a, failure a ∧ e = .arithmetic a :=
    fun h g _ => ⟨h g, trivial⟩
  refine (hcalculated hsum).bind fun t ht => ?_
  split
  · exact ends_pure (by simp)
  · refine (hlift (P := fun _ => True) fun _ => trivial).bind fun k _ => ?_
    refine (hcalculated (hbound k t ht.1)).bind fun bound _ => ?_
    refine (hlift (P := (·.Perm (entry :: entries))) (shuffle_perm _)).bind fun shuffled hperm => ?_
    refine (hcalculated (hsearch bound shuffled hperm)).mono (fun key hkey => ?_) fun _ h => h
    rcases keyBeyond_mem hkey.2 with rfl | hmem
    · simp
    · exact (hperm.map Prod.fst).subset hmem

theorem ends_weightedChoice [Scalar R] (entry : K × R) (entries : List (K × R)) :
    Ends (fun _ : G => True) (weightedChoice (entry :: entries))
      (fun key => key ∈ (entry :: entries).map Prod.fst) fun e => ∃ a, e = .arithmetic a := by
  have hany : ∀ {β : Type} (a : Except ArithmeticError β),
      Meets (fun _ => True) (fun _ => True) a := by
    rintro β (e | b) <;> exact trivial
  refine (ends_weightedChoice_of _ _ (hany _) (fun k t _ => hany _) fun bound shuffled _ =>
    hany _).mono (fun _ h => h) ?_
  rintro _ ⟨a, -, rfl⟩
  exact ⟨a, rfl⟩

/-! ## Two distinct positions -/

variable {n first count : Nat} {g g₁ g' : G} {i j : Nat}
  {pair : Nat × Nat}

private theorem below_lt (hn : 0 < n) (h : (below n).run g = (i, g')) : i < n := by
  have hlt := RandomSource.below_lt n g hn
  change RandomSource.below n g = (i, g') at h
  rwa [h] at hlt

/-- The positions that are left after the first draw. -/
def pool (n first : Nat) : List Nat :=
  ((List.range n).set first (n - 1)).take (n - 1)

private theorem length_pool : (pool n first).length = n - 1 := by
  simp [pool]

private theorem getElem?_pool (hi : i < n - 1) :
    (pool n first)[i]? = some (if i = first then n - 1 else i) := by
  have hrange : i < n := by omega
  rw [pool, List.getElem?_take_of_lt hi, List.getElem?_set]
  by_cases h : first = i
  · subst h
    simp [hrange]
  · have h' : ¬ i = first := fun heq => h heq.symm
    simp [h, h', hrange]

private theorem mem_pool (h : j ∈ pool n first) (hfirst : first < n) : j < n ∧ j ≠ first := by
  obtain ⟨i, hi, rfl⟩ := List.mem_iff_getElem.mp h
  rw [length_pool] at hi
  have hplace : (pool n first)[i]? = some (if i = first then n - 1 else i) := getElem?_pool hi
  rw [List.getElem?_eq_getElem (by rwa [length_pool]), Option.some.injEq] at hplace
  rw [hplace]
  by_cases h : i = first
  · simp only [h, if_true]
    omega
  · simp only [h, if_false]
    omega

/-- A position below `n` is drawn that differs from the first one, after so many that do not. -/
inductive Redraws (n first : Nat) : Nat → G → Nat → G → Prop
  | other {g g' : G} {j : Nat} (drawn : (below n).run g = (j, g')) (differs : j ≠ first) :
      Redraws n first 0 g j g'
  | again {count : Nat} {g g₁ g' : G} {j : Nat} (drawn : (below n).run g = (first, g₁))
      (rest : Redraws n first count g₁ j g') : Redraws n first (count + 1) g j g'

/-- Two positions are drawn, from a pool if they are few, and else with redrawing. -/
inductive DrawsTwo (n : Nat) (g : G) : Nat × Nat → G → Prop
  | pooled {i k j : Nat} {g₁ g' : G} (few : n ≤ 21) (first : (below n).run g = (i, g₁))
      (second : (below (n - 1)).run g₁ = (k, g')) (place : (pool n i)[k]? = some j) :
      DrawsTwo n g (i, j) g'
  | redrawn {i j count : Nat} {g₁ g' : G} (many : 21 < n) (first : (below n).run g = (i, g₁))
      (second : Redraws n i count g₁ j g') : DrawsTwo n g (i, j) g'

private theorem Redraws.lt_and_ne (h : Redraws n first count g j g') (hn : 0 < n) :
    j < n ∧ j ≠ first := by
  induction h with
  | other drawn differs => exact ⟨below_lt hn drawn, differs⟩
  | again _ _ ih => exact ih

theorem DrawsTwo.distinct (h : DrawsTwo n g pair g') (hn : 2 ≤ n) :
    pair.1 < n ∧ pair.2 < n ∧ pair.1 ≠ pair.2 := by
  have hpos : 0 < n := by omega
  cases h with
  | pooled _ first _ place =>
    have hfirst := below_lt hpos first
    have hsecond := mem_pool (List.mem_of_getElem? place) hfirst
    exact ⟨hfirst, hsecond.1, hsecond.2.symm⟩
  | redrawn _ first second =>
    have hsecond := second.lt_and_ne hpos
    exact ⟨below_lt hpos first, hsecond.1, hsecond.2.symm⟩

/-! ### The draws of a source -/

omit [RandomSource G] in
private theorem run_bind_of_run {α β : Type} {act : StateM G α} {f : α → StateM G β} {a : α}
    (h : act.run g = (a, g')) : (act >>= f).run g = (f a).run g' := by
  rw [StateT.run_bind, h]
  rfl

/-- With more redraws allowed than it takes, the loop ends with the position that differs. -/
theorem run_drawOther (h : Redraws n first count g j g') {fuel : Nat} (hfuel : count < fuel) :
    (drawOther n first fuel).run g = (j, g') := by
  induction h generalizing fuel with
  | other drawn differs =>
    cases fuel with
    | zero => omega
    | succ fuel =>
      rw [drawOther, run_bind_of_run drawn, if_neg (by simpa using differs)]
      rfl
  | @again count _ _ _ _ drawn _ ih =>
    cases fuel with
    | zero => omega
    | succ fuel =>
      have hrest : count < fuel := by omega
      rw [drawOther, run_bind_of_run drawn, if_pos (by simp)]
      exact ih hrest

/-- Two of many positions are drawn as long as the redraws last. -/
theorem run_twoBelow_of_redraws (hmany : 21 < n) (hfirst : (below n).run g = (i, g₁))
    (h : Redraws n i count g₁ j g') (hcount : count < redraws) :
    (twoBelow n).run g = ((i, j), g') := by
  have hnot : ¬ n ≤ 21 := by omega
  rw [twoBelow, run_bind_of_run hfirst, if_neg hnot, run_bind_of_run (run_drawOther h hcount)]
  rfl

theorem drawsTwo_twoBelow (hn : 2 ≤ n) (hfew : n ≤ 21) (g : G) :
    DrawsTwo n g ((twoBelow n).run g).1 ((twoBelow n).run g).2 := by
  obtain ⟨i, g₁, hfirst⟩ : ∃ i g₁, (below n).run g = (i, g₁) := ⟨_, _, rfl⟩
  obtain ⟨k, g', hsecond⟩ : ∃ k g', (below (n - 1)).run g₁ = (k, g') := ⟨_, _, rfl⟩
  have hk : k < n - 1 := below_lt (by omega) hsecond
  have hrun : (twoBelow n).run g = ((i, if k = i then n - 1 else k), g') := by
    rw [twoBelow, run_bind_of_run hfirst, if_pos hfew, run_bind_of_run hsecond]
    simp only [beq_iff_eq]
    rfl
  rw [hrun]
  exact .pooled hfew hfirst hsecond (getElem?_pool hk)

/-- Of many positions, fewer equal ones follow the first than the source redraws. -/
def RedrawsLast (n : Nat) (g : G) : Prop :=
  21 < n → ∃ i g₁ count j g', (below n).run g = (i, g₁) ∧ Redraws n i count g₁ j g' ∧
    count < redraws

theorem drawsTwo_twoBelow_of_redrawsLast (hn : 2 ≤ n) (h : RedrawsLast n g) :
    DrawsTwo n g ((twoBelow n).run g).1 ((twoBelow n).run g).2 := by
  by_cases hfew : n ≤ 21
  · exact drawsTwo_twoBelow hn hfew g
  · have hmany : 21 < n := by omega
    obtain ⟨i, g₁, count, j, g', hfirst, hsecond, hcount⟩ := h hmany
    rw [run_twoBelow_of_redraws hmany hfirst hsecond hcount]
    exact .redrawn hmany hfirst hsecond

end Random

/-! ## A source that counts -/

structure Counter where
  count : Nat

instance : RandomSource Counter where
  unit g := (0, ⟨g.count + 1⟩)
  below n g := (g.count % n, ⟨g.count + 1⟩)
  unit_lt _ := (by decide : 0 < unitSteps)
  below_lt _ _ h := Nat.mod_lt _ h

end GeneticRepair
