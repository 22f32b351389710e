import GeneticRepair.Proofs.Action
import GeneticRepair.Proofs.Number.Exact
import GeneticRepair.Proofs.Random
import Mathlib.Algebra.BigOperators.Group.List.Basic
import Mathlib.Order.Interval.Set.Disjoint

/-!
# Weighted choice in exact arithmetic

However the entries are shuffled, the draws that give a key form an interval that is as long as the
weight of the key, and these intervals share out all draws.
-/

namespace GeneticRepair.Random

open Scalar

variable {K G : Type} {entries shuffled before after : List (K × ℝ)} {key : K}
  {bound start weight : ℝ}

/-! ## Sums of weights -/

def totalWeight (entries : List (K × ℝ)) : ℝ :=
  (entries.map Prod.snd).sum

@[simp] theorem totalWeight_nil : totalWeight ([] : List (K × ℝ)) = 0 := rfl

@[simp] theorem totalWeight_cons (entry : K × ℝ) (entries : List (K × ℝ)) :
    totalWeight (entry :: entries) = entry.2 + totalWeight entries := by
  simp [totalWeight]

private theorem totalWeight_append (before after : List (K × ℝ)) :
    totalWeight (before ++ after) = totalWeight before + totalWeight after := by
  simp [totalWeight]

private theorem totalWeight_perm (h : shuffled.Perm entries) :
    totalWeight shuffled = totalWeight entries :=
  (h.map Prod.snd).sum_eq

private theorem totalWeight_nonneg (h : ∀ entry ∈ entries, 0 ≤ entry.2) :
    0 ≤ totalWeight entries := by
  refine List.sum_nonneg fun weight hweight => ?_
  obtain ⟨entry, hentry, rfl⟩ := List.mem_map.mp hweight
  exact h entry hentry

/-! ## The search for a key -/

/-- The key at which the search for a bound ends early, as the sum of the weights exceeds it. -/
noncomputable def keyWithin? (bound : ℝ) : ℝ → List (K × ℝ) → Option K
  | _, [] => none
  | start, (key, weight) :: entries =>
    if bound < start + weight then some key else keyWithin? bound (start + weight) entries

/-- The search gives the key at which it ends early, and otherwise falls back on the last one. -/
theorem keyBeyond_eq (bound start : ℝ) (fallback : K) (entries : List (K × ℝ)) :
    keyBeyond bound fallback start entries =
      .ok ((keyWithin? bound start entries).getD ((entries.map Prod.fst).getLastD fallback)) := by
  induction entries generalizing start fallback with
  | nil => rfl
  | cons entry entries ih =>
    obtain ⟨key, weight⟩ := entry
    have hstep : keyBeyond bound fallback start ((key, weight) :: entries) =
        if less bound (start + weight) then .ok key
        else keyBeyond bound key (start + weight) entries := rfl
    rw [hstep, keyWithin?, ih]
    by_cases h : bound < start + weight
    · rw [if_pos (less_real.mpr h), if_pos h]
      rfl
    · rw [if_neg (mt less_real.mp h), if_neg h, List.map_cons, List.getLastD_cons]

private theorem keyWithin?_append (bound start : ℝ) (before after : List (K × ℝ)) :
    keyWithin? bound start (before ++ after) = (keyWithin? bound start before).or
      (keyWithin? bound (start + totalWeight before) after) := by
  induction before generalizing start with
  | nil => simp [keyWithin?]
  | cons entry before ih =>
    rw [List.cons_append, keyWithin?, keyWithin?, ih, totalWeight_cons, add_assoc]
    split <;> rfl

private theorem keyWithin?_eq_none_iff (h : ∀ entry ∈ entries, 0 ≤ entry.2)
    (hstart : start ≤ bound) :
    keyWithin? bound start entries = none ↔ start + totalWeight entries ≤ bound := by
  induction entries generalizing start with
  | nil => simpa [keyWithin?] using hstart
  | cons entry entries ih =>
    obtain ⟨hentry, hentries⟩ := List.forall_mem_cons.mp h
    have hrest := totalWeight_nonneg hentries
    rw [keyWithin?, totalWeight_cons, ← add_assoc]
    split
    · rename_i hlt
      refine iff_of_false (Option.some_ne_none _) (not_le.mpr ?_)
      linarith
    · rename_i hle
      exact ih hentries (not_lt.mp hle)

private theorem mem_keys_of_keyWithin? (h : keyWithin? bound start entries = some key) :
    key ∈ entries.map Prod.fst := by
  induction entries generalizing start with
  | nil => cases h
  | cons entry entries ih =>
    rw [keyWithin?] at h
    split at h
    · obtain rfl := Option.some.inj h
      exact List.mem_cons_self
    · exact List.mem_cons_of_mem _ (ih h)

/-- The search ends at an entry if the bound lies between the sum of the weights before it and the
sum that includes its own. -/
theorem keyWithin?_eq_some_iff (h : ∀ entry ∈ before, 0 ≤ entry.2)
    (hbefore : key ∉ before.map Prod.fst) (hafter : key ∉ after.map Prod.fst) (hbound : 0 ≤ bound) :
    keyWithin? bound 0 (before ++ (key, weight) :: after) = some key ↔
      bound ∈ Set.Ico (totalWeight before) (totalWeight before + weight) := by
  have hnone := keyWithin?_eq_none_iff h hbound
  rw [zero_add] at hnone
  rw [keyWithin?_append, zero_add, Set.mem_Ico]
  cases hfound : keyWithin? bound 0 before with
  | some other =>
    have hne : other ≠ key := by
      rintro rfl
      exact hbefore (mem_keys_of_keyWithin? hfound)
    have hlt : ¬ totalWeight before ≤ bound := by
      rw [← hnone, hfound]
      exact Option.some_ne_none other
    simp [hne, hlt]
  | none =>
    have hle := hnone.mp hfound
    rw [Option.none_or, keyWithin?]
    split
    · rename_i hlt
      exact iff_of_true rfl ⟨hle, hlt⟩
    · rename_i hge
      refine iff_of_false (fun hkey => hafter (mem_keys_of_keyWithin? hkey)) ?_
      exact fun hmem => hge hmem.2

/-! ## Draws -/

/-- The draws with which the entries, in this order, give a key. -/
def draws (entries : List (K × ℝ)) (key : K) : Set ℝ :=
  {bound | bound ∈ Set.Ico 0 (totalWeight entries) ∧
    ∀ fallback, keyBeyond bound fallback origin entries = .ok key}

private theorem exists_keyWithin? (h : ∀ entry ∈ entries, 0 ≤ entry.2)
    (hbound : bound ∈ Set.Ico 0 (totalWeight entries)) :
    ∃ key ∈ entries.map Prod.fst, keyWithin? bound 0 entries = some key ∧
      ∀ fallback, keyBeyond bound fallback origin entries = .ok key := by
  obtain ⟨key, hkey⟩ : ∃ key, keyWithin? bound 0 entries = some key := by
    rw [← Option.ne_none_iff_exists', ne_eq, keyWithin?_eq_none_iff h hbound.1, zero_add]
    exact not_le.mpr hbound.2
  refine ⟨key, mem_keys_of_keyWithin? hkey, hkey, fun fallback => ?_⟩
  rw [keyBeyond_eq, origin_real, hkey, Option.getD_some]

private theorem mem_draws_iff (h : ∀ entry ∈ entries, 0 ≤ entry.2) : bound ∈ draws entries key ↔
    bound ∈ Set.Ico 0 (totalWeight entries) ∧ keyWithin? bound 0 entries = some key := by
  refine and_congr_right fun hbound => ?_
  obtain ⟨found, -, hfound, hsearch⟩ := exists_keyWithin? h hbound
  rw [hfound, Option.some.injEq]
  constructor
  · intro hkey
    exact Except.ok.inj ((hsearch key).symm.trans (hkey key))
  · rintro rfl
    exact hsearch

private theorem mem_draws_iff_keyBeyond (h : ∀ entry ∈ entries, 0 ≤ entry.2)
    (hbound : bound ∈ Set.Ico 0 (totalWeight entries)) (fallback : K) :
    bound ∈ draws entries key ↔ keyBeyond bound fallback origin entries = .ok key := by
  obtain ⟨found, -, hfound, hsearch⟩ := exists_keyWithin? h hbound
  rw [mem_draws_iff h, hfound, hsearch, Option.some.injEq, Except.ok.injEq]
  exact and_iff_right hbound

private theorem draws_eq_Ico (h : ∀ entry ∈ before ++ (key, weight) :: after, 0 ≤ entry.2)
    (hbefore : key ∉ before.map Prod.fst) (hafter : key ∉ after.map Prod.fst) :
    draws (before ++ (key, weight) :: after) key =
      Set.Ico (totalWeight before) (totalWeight before + weight) := by
  obtain ⟨hbeforeWeights, hrest⟩ := List.forall_mem_append.mp h
  have hfrom := totalWeight_nonneg hbeforeWeights
  have hto := totalWeight_nonneg (List.forall_mem_cons.mp hrest).2
  ext bound
  rw [mem_draws_iff h]
  constructor
  · rintro ⟨hbound, hkey⟩
    exact (keyWithin?_eq_some_iff hbeforeWeights hbefore hafter hbound.1).mp hkey
  · intro hbound
    have hstart : 0 ≤ bound := hfrom.trans hbound.1
    have hend : bound < totalWeight (before ++ (key, weight) :: after) := by
      rw [totalWeight_append, totalWeight_cons, ← add_assoc]
      exact hbound.2.trans_le (le_add_of_nonneg_right hto)
    exact ⟨⟨hstart, hend⟩,
      (keyWithin?_eq_some_iff hbeforeWeights hbefore hafter hstart).mpr hbound⟩

private theorem exists_draws_eq_Ico (hkeys : (entries.map Prod.fst).Nodup)
    (h : ∀ entry ∈ entries, 0 ≤ entry.2) (hmem : (key, weight) ∈ entries) :
    ∃ start, draws entries key = Set.Ico start (start + weight) := by
  obtain ⟨before, after, rfl⟩ := List.append_of_mem hmem
  rw [List.map_append, List.map_cons, List.nodup_append] at hkeys
  obtain ⟨-, hrest, hdisjoint⟩ := hkeys
  have hbefore : key ∉ before.map Prod.fst :=
    fun hkey => hdisjoint key hkey key List.mem_cons_self rfl
  exact ⟨_, draws_eq_Ico h hbefore (List.nodup_cons.mp hrest).1⟩

/-! ## The choice -/

private theorem returns_calculated {α : Type} {result : Except ArithmeticError α} {g g' : G}
    {a : α} :
    Returns (calculated result : ExceptT SamplingError (StateM G) α) g a g' ↔
      result = .ok a ∧ g' = g := by
  rw [calculated, returns_liftExcept]
  cases result <;> simp [Except.mapError]

variable [RandomSource G]

/-- A choice draws a number below the sum of the weights, shuffles the entries, and searches them
for the number. -/
theorem returns_weightedChoice (entry : K × ℝ) (entries : List (K × ℝ))
    (hpos : 0 < totalWeight (entry :: entries)) {g g' : G} :
    Returns (weightedChoice (entry :: entries)) g key g' ↔
      let shuffled := (shuffle (entry :: entries)).run (RandomSource.unit g).2
      keyBeyond (ofUnit (RandomSource.unit g).1 * totalWeight (entry :: entries)) entry.1 origin
        shuffled.1 = .ok key ∧ g' = shuffled.2 := by
  have hsum : Scalar.sum ((entry :: entries).map Prod.snd) =
      .ok (totalWeight (entry :: entries)) := sum_real _
  have hbranch : ¬ Scalar.atMost (totalWeight (entry :: entries)) zero = true := by
    rw [atMost_real, zero_real]
    exact not_le.mpr hpos
  rw [weightedChoice]
  simp only [returns_bind, returns_calculated, hsum, Except.ok.injEq]
  constructor
  · rintro ⟨_, _, ⟨rfl, rfl⟩, hchoice⟩
    rw [if_neg hbranch] at hchoice
    simp only [returns_bind, returns_liftM, returns_calculated, mul_real] at hchoice
    obtain ⟨_, _, ⟨rfl, rfl⟩, _, _, ⟨hbound, rfl⟩, _, _, ⟨rfl, rfl⟩, hkey, rfl⟩ := hchoice
    obtain rfl := Except.ok.inj hbound
    exact ⟨hkey, rfl⟩
  · rintro ⟨hkey, rfl⟩
    refine ⟨_, _, ⟨rfl, rfl⟩, ?_⟩
    rw [if_neg hbranch]
    simp only [returns_bind, returns_liftM, returns_calculated, mul_real]
    exact ⟨_, _, ⟨rfl, rfl⟩, _, _, ⟨rfl, rfl⟩, _, _, ⟨rfl, rfl⟩, hkey, rfl⟩

private theorem ofUnit_mul_mem (hpos : 0 < totalWeight entries) (g : G) :
    ofUnit (RandomSource.unit g).1 * totalWeight entries ∈ Set.Ico 0 (totalWeight entries) := by
  have hunit := ofUnit_real_mem (RandomSource.unit_lt g)
  exact ⟨mul_nonneg hunit.1 hpos.le, mul_lt_of_lt_one_left hpos hunit.2⟩

private theorem returns_weightedChoice_iff (h : ∀ entry ∈ entries, 0 ≤ entry.2)
    (hpos : 0 < totalWeight entries) {g g' : G} :
    Returns (weightedChoice entries) g key g' ↔
      let shuffled := (shuffle entries).run (RandomSource.unit g).2
      ofUnit (RandomSource.unit g).1 * totalWeight entries ∈ draws shuffled.1 key ∧
        g' = shuffled.2 := by
  have hperm := shuffle_perm entries (RandomSource.unit g).2
  have hdrawn : ofUnit (RandomSource.unit g).1 * totalWeight entries ∈
      Set.Ico 0 (totalWeight ((shuffle entries).run (RandomSource.unit g).2).1) := by
    rw [totalWeight_perm hperm]
    exact ofUnit_mul_mem hpos g
  cases entries with
  | nil => exact absurd hpos (lt_irrefl _)
  | cons entry entries =>
    have hshuffled := fun e he => h e (hperm.subset he)
    exact (returns_weightedChoice entry entries hpos).trans
      (and_congr_left' (mem_draws_iff_keyBeyond hshuffled hdrawn entry.1).symm)

/-- A choice between entries of which the weights are not negative, and some weight is positive,
draws a number below the sum of the weights. In whatever order the entries are searched, the draws
that give a key are an interval as long as its weight, each draw gives one key, and the search ends
before it has to fall back on the last key. -/
theorem weightedChoice_proportional (hkeys : (entries.map Prod.fst).Nodup)
    (hweights : ∀ entry ∈ entries, 0 ≤ entry.2) (hpos : 0 < totalWeight entries) :
    (∀ g : G,
      let drawn := ofUnit (RandomSource.unit g).1 * totalWeight entries
      let shuffled := (shuffle entries).run (RandomSource.unit g).2
      drawn ∈ Set.Ico 0 (totalWeight entries) ∧ shuffled.1.Perm entries ∧
        ∀ key g', Returns (weightedChoice entries) g key g' ↔
          drawn ∈ draws shuffled.1 key ∧ g' = shuffled.2) ∧
    ∀ shuffled, shuffled.Perm entries →
      (∀ key weight, (key, weight) ∈ entries →
        ∃ start, draws shuffled key = Set.Ico start (start + weight)) ∧
      (∀ key, (key, 0) ∈ entries → draws shuffled key = ∅) ∧
      (∀ bound ∈ Set.Ico 0 (totalWeight entries),
        ∃! key, key ∈ entries.map Prod.fst ∧ bound ∈ draws shuffled key) ∧
      ∀ bound ∈ Set.Ico 0 (totalWeight entries), ∃ key, keyWithin? bound 0 shuffled = some key ∧
        ∀ fallback, keyBeyond bound fallback origin shuffled = .ok key := by
  constructor
  · intro g
    exact ⟨ofUnit_mul_mem hpos g, shuffle_perm _ _,
      fun key g' => returns_weightedChoice_iff hweights hpos⟩
  · intro shuffled hperm
    have hshuffled := fun e he => hweights e (hperm.subset he)
    have hkeys' := (hperm.map Prod.fst).nodup_iff.mpr hkeys
    have hinterval : ∀ key weight, (key, weight) ∈ entries →
        ∃ start, draws shuffled key = Set.Ico start (start + weight) :=
      fun key weight hmem => exists_draws_eq_Ico hkeys' hshuffled (hperm.symm.subset hmem)
    rw [← totalWeight_perm hperm]
    refine ⟨hinterval, fun key hmem => ?_, fun bound hbound => ?_, fun bound hbound => ?_⟩
    · obtain ⟨start, hstart⟩ := hinterval key 0 hmem
      rw [hstart, add_zero, Set.Ico_self]
    · obtain ⟨found, hmem, hfound, -⟩ := exists_keyWithin? hshuffled hbound
      have hdrawn := (mem_draws_iff hshuffled).mpr ⟨hbound, hfound⟩
      refine ⟨found, ⟨(hperm.map Prod.fst).subset hmem, hdrawn⟩, ?_⟩
      rintro key ⟨-, hkey⟩
      exact Option.some.inj (((mem_draws_iff hshuffled).mp hkey).2.symm.trans hfound)
    · obtain ⟨found, -, hfound⟩ := exists_keyWithin? hshuffled hbound
      exact ⟨found, hfound⟩

theorem weightedChoice_of_three :
    let entries : List (Nat × ℝ) := [(1, 1), (2, 0), (3, 2)]
    (entries.map Prod.fst).Nodup ∧ (∀ entry ∈ entries, 0 ≤ entry.2) ∧ 0 < totalWeight entries ∧
      (∃ start, draws [(3, 2), (2, 0), (1, 1)] 3 = Set.Ico start (start + 2)) ∧
      draws [(3, 2), (2, 0), (1, 1)] 2 = ∅ ∧
      ∃ key g, Returns (weightedChoice entries) (⟨0⟩ : Counter) key g := by
  intro entries
  have hkeys : (entries.map Prod.fst).Nodup := by decide
  have hweights : ∀ entry ∈ entries, 0 ≤ entry.2 := by simp [entries]
  have hpos : 0 < totalWeight entries := by norm_num [entries]
  obtain ⟨hrun, hdraws⟩ := weightedChoice_proportional (G := Counter) hkeys hweights hpos
  have hperm : [(3, 2), (2, 0), (1, 1)].Perm entries := (List.reverse_perm entries)
  obtain ⟨hinterval, hnever, -⟩ := hdraws _ hperm
  obtain ⟨hdrawn, hperm', hreturns⟩ := hrun ⟨0⟩
  obtain ⟨key, ⟨-, hkey⟩, -⟩ := (hdraws _ hperm').2.2.1 _ hdrawn
  exact ⟨hkeys, hweights, hpos, hinterval 3 2 (by simp [entries]), hnever 2 (by simp [entries]),
    key, _, (hreturns key _).mpr ⟨hkey, rfl⟩⟩

end GeneticRepair.Random
