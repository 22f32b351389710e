import GeneticRepair.Collection.Entries
import GeneticRepair.Proofs.Collection.Entries
import Mathlib.Data.List.Nodup
import Mathlib.Order.Defs.Unbundled
import Mathlib.Tactic.Common

/-!
# Sorted entries

The keys of a map that is built from a list of entries ascend strictly, and are the keys of the
list. The map has the last entry of each key. The same holds of the members of a set. Entries that are
in order are left as they are, and the order of entries with different keys does not matter.
-/

namespace GeneticRepair.Sorted

section Concat

variable {K V : Type} [LT K] [DecidableLT K]

private theorem ofEntries_concat (es : List (K × V)) (e : K × V) :
    ofEntries (es ++ [e]) = put e.1 e.2 (ofEntries es) := by
  rw [ofEntries, List.foldl_append]
  rfl

private theorem ofList_concat (ks : List K) (k : K) :
    ofList (ks ++ [k]) = insert k (ofList ks) := by
  rw [ofList, List.foldl_append]
  rfl

end Concat

section Renamed

variable {K K' V V' : Type} [LT K] [DecidableLT K] [LT K'] [DecidableLT K'] {f : K → K'}
  {g : V → V'}

private theorem put_map (hf : ∀ a b, f a < f b ↔ a < b) (key : K) (value : V) (es : List (K × V)) :
    put (f key) (g value) (es.map (Prod.map f g)) = (put key value es).map (Prod.map f g) := by
  induction es with
  | nil => rfl
  | cons e es ih =>
    obtain ⟨k, v⟩ := e
    simp only [List.map_cons, Prod.map_apply, put, hf, ih]
    split
    · rfl
    · split <;> rfl

theorem ofEntries_map (hf : ∀ a b, f a < f b ↔ a < b) (es : List (K × V)) :
    ofEntries (es.map (Prod.map f g)) = (ofEntries es).map (Prod.map f g) := by
  induction es using List.reverseRecOn with
  | nil => rfl
  | append_singleton es e ih =>
    rw [List.map_append, List.map_singleton, ofEntries_concat, ofEntries_concat, ih]
    exact put_map hf e.1 e.2 _

private theorem insert_map (hf : ∀ a b, f a < f b ↔ a < b) (key : K) (ks : List K) :
    insert (f key) (ks.map f) = (insert key ks).map f := by
  induction ks with
  | nil => rfl
  | cons k ks ih =>
    simp only [List.map_cons, insert, hf, ih]
    split
    · rfl
    · split <;> rfl

theorem ofList_map (hf : ∀ a b, f a < f b ↔ a < b) (ks : List K) :
    ofList (ks.map f) = (ofList ks).map f := by
  induction ks using List.reverseRecOn with
  | nil => rfl
  | append_singleton ks k ih =>
    rw [List.map_append, List.map_singleton, ofList_concat, ofList_concat, ih]
    exact insert_map hf k _

end Renamed

variable {K V : Type} [LT K] [DecidableLT K] [Std.Trichotomous (α := K) (· < ·)]

private theorem mem_keys_put {key x : K} {value : V} {es : List (K × V)} :
    x ∈ (put key value es).map Prod.fst ↔ x = key ∨ x ∈ es.map Prod.fst := by
  induction es with
  | nil => simp [put]
  | cons e es ih =>
    obtain ⟨k, v⟩ := e
    simp only [put]
    split
    · simp
    · split
      · simp only [List.map_cons, List.mem_cons, ih]
        exact or_left_comm
      · rename_i h₁ h₂
        have hkey : key = k := Std.Trichotomous.trichotomous key k h₁ h₂
        simp [hkey]

omit [Std.Trichotomous (α := K) (· < ·)] in
private theorem value_mem_put {key : K} {value : V} {es : List (K × V)} {v : V}
    (h : v ∈ (put key value es).map Prod.snd) : v = value ∨ v ∈ es.map Prod.snd := by
  induction es with
  | nil => simpa [put] using h
  | cons e es ih =>
    obtain ⟨k, w⟩ := e
    simp only [put] at h
    split at h
    · simpa using h
    · split at h
      · rcases List.mem_cons.mp h with rfl | h
        · exact .inr List.mem_cons_self
        · exact (ih h).imp_right (List.mem_cons_of_mem w)
      · exact (List.mem_cons.mp h).imp_right (List.mem_cons_of_mem w)

omit [Std.Trichotomous (α := K) (· < ·)] in
theorem value_mem_ofEntries {es : List (K × V)} {v : V}
    (h : v ∈ (ofEntries es).map Prod.snd) : v ∈ es.map Prod.snd := by
  induction es using List.reverseRecOn with
  | nil => exact h
  | append_singleton es e ih =>
    rw [ofEntries_concat] at h
    rw [List.map_append, List.mem_append]
    rcases value_mem_put h with rfl | h
    · exact .inr List.mem_cons_self
    · exact .inl (ih h)

variable [IsTrans K (· < ·)]

private theorem pairwise_keys_put {key : K} {value : V} {es : List (K × V)}
    (h : (es.map Prod.fst).Pairwise (· < ·)) :
    ((put key value es).map Prod.fst).Pairwise (· < ·) := by
  induction es with
  | nil => simp [put]
  | cons e es ih =>
    obtain ⟨k, v⟩ := e
    simp only [List.map_cons, List.pairwise_cons] at h
    simp only [put]
    split
    · rename_i hlt
      simp only [List.map_cons, List.pairwise_cons, List.mem_cons]
      refine ⟨?_, h⟩
      rintro x (rfl | hx)
      · exact hlt
      · exact IsTrans.trans key k x hlt (h.1 x hx)
    · split
      · rename_i hlt
        simp only [List.map_cons, List.pairwise_cons]
        refine ⟨?_, ih h.2⟩
        intro x hx
        rcases mem_keys_put.mp hx with rfl | hx
        · exact hlt
        · exact h.1 x hx
      · simpa only [List.map_cons, List.pairwise_cons] using h

theorem pairwise_keys_ofEntries (es : List (K × V)) :
    ((ofEntries es).map Prod.fst).Pairwise (· < ·) := by
  induction es using List.reverseRecOn with
  | nil => exact .nil
  | append_singleton es e ih =>
    rw [ofEntries_concat]
    exact pairwise_keys_put ih

omit [IsTrans K (· < ·)] in
theorem mem_keys_ofEntries {es : List (K × V)} {x : K} :
    x ∈ (ofEntries es).map Prod.fst ↔ x ∈ es.map Prod.fst := by
  induction es using List.reverseRecOn with
  | nil => rfl
  | append_singleton es e ih =>
    rw [ofEntries_concat, mem_keys_put, ih, List.map_append, List.mem_append, or_comm]
    simp

section Entries

variable [Std.Irrefl (α := K) (· < ·)]

private theorem mem_put {key : K} {value : V} {es : List (K × V)} {e : K × V}
    (h : (es.map Prod.fst).Pairwise (· < ·)) :
    e ∈ put key value es ↔ e = (key, value) ∨ e ∈ es ∧ e.1 ≠ key := by
  induction es with
  | nil => simp [put]
  | cons first es ih =>
    obtain ⟨k, v⟩ := first
    rw [List.map_cons, List.pairwise_cons] at h
    have hrest : e ∈ es → k < e.1 := fun he => h.1 e.1 (List.mem_map_of_mem he)
    have hne : ∀ {a b : K}, a < b → b ≠ a := by
      rintro a b hlt rfl
      exact Std.Irrefl.irrefl b hlt
    simp only [put]
    split
    · rename_i hlt
      rw [List.mem_cons, List.mem_cons]
      refine or_congr_right ⟨fun he => ⟨he, ?_⟩, And.left⟩
      rcases he with rfl | he
      · exact hne hlt
      · exact hne (IsTrans.trans key k e.1 hlt (hrest he))
    · split
      · rename_i hlt
        rw [List.mem_cons, ih h.2, List.mem_cons]
        constructor
        · rintro (rfl | rfl | he)
          · exact .inr ⟨.inl rfl, (hne hlt).symm⟩
          · exact .inl rfl
          · exact .inr ⟨.inr he.1, he.2⟩
        · rintro (rfl | ⟨rfl | he, hkey⟩)
          · exact .inr (.inl rfl)
          · exact .inl rfl
          · exact .inr (.inr ⟨he, hkey⟩)
      · rename_i h₁ h₂
        obtain rfl : key = k := Std.Trichotomous.trichotomous key k h₁ h₂
        rw [List.mem_cons, List.mem_cons]
        refine or_congr_right ⟨fun he => ⟨.inr he, hne (hrest he)⟩, ?_⟩
        rintro ⟨rfl | he, hkey⟩
        · exact absurd rfl hkey
        · exact he

theorem mem_ofEntries {es : List (K × V)} {key : K} {value : V} :
    (key, value) ∈ ofEntries es ↔ Entries.AtLast es key value := by
  apply Entries.mem_iff_atLast rfl
  intro es k v e
  rw [ofEntries_concat, mem_put (pairwise_keys_ofEntries es)]

omit [DecidableLT K] [Std.Trichotomous (α := K) (· < ·)] in
private theorem eq_of_mem_iff {es fs : List (K × V)} (hes : (es.map Prod.fst).Pairwise (· < ·))
    (hfs : (fs.map Prod.fst).Pairwise (· < ·)) (h : ∀ e, e ∈ es ↔ e ∈ fs) : es = fs := by
  have hnodup : ∀ {l : List (K × V)}, (l.map Prod.fst).Pairwise (· < ·) → l.Nodup := by
    intro l hl
    refine List.Nodup.of_map Prod.fst (hl.imp ?_)
    rintro a _ hlt rfl
    exact Std.Irrefl.irrefl a hlt
  refine List.Perm.eq_of_pairwise ?_ (List.pairwise_map.mp hes) (List.pairwise_map.mp hfs)
    ((List.perm_ext_iff_of_nodup (hnodup hes) (hnodup hfs)).mpr h)
  intro a b _ _ hab hba
  exact absurd (IsTrans.trans a.1 b.1 a.1 hab hba) (Std.Irrefl.irrefl a.1)

theorem ofEntries_perm {es fs : List (K × V)} (h : es.Perm fs) (hnodup : (es.map Prod.fst).Nodup) :
    ofEntries es = ofEntries fs := by
  refine eq_of_mem_iff (pairwise_keys_ofEntries es) (pairwise_keys_ofEntries fs) fun e => ?_
  have hnodup' : (fs.map Prod.fst).Nodup := (h.map Prod.fst).nodup_iff.mp hnodup
  rw [mem_ofEntries, mem_ofEntries, Entries.atLast_iff_mem hnodup, Entries.atLast_iff_mem hnodup',
    h.mem_iff]

end Entries

/-! ## Sets -/

section Sets

variable [Std.Irrefl (α := K) (· < ·)]

private theorem pairwise_insert {key : K} {ks : List K} (h : ks.Pairwise (· < ·)) :
    (insert key ks).Pairwise (· < ·) := by
  induction ks with
  | nil => simp [insert]
  | cons k ks ih =>
    rw [List.pairwise_cons] at h
    simp only [insert]
    split
    · rename_i hlt
      refine List.pairwise_cons.mpr ⟨?_, List.pairwise_cons.mpr h⟩
      rintro x (_ | ⟨_, hx⟩)
      · exact hlt
      · exact IsTrans.trans key k x hlt (h.1 x hx)
    · split
      · rename_i hlt
        refine List.pairwise_cons.mpr ⟨fun x hx => ?_, ih h.2⟩
        rcases mem_insert.mp hx with rfl | hx
        · exact hlt
        · exact h.1 x hx
      · exact List.pairwise_cons.mpr h

theorem pairwise_ofList (ks : List K) : (ofList ks).Pairwise (· < ·) := by
  induction ks using List.reverseRecOn with
  | nil => exact .nil
  | append_singleton ks k ih =>
    rw [ofList_concat]
    exact pairwise_insert ih

omit [IsTrans K (· < ·)] in
theorem mem_ofList {ks : List K} {x : K} : x ∈ ofList ks ↔ x ∈ ks := by
  induction ks using List.reverseRecOn with
  | nil => rfl
  | append_singleton ks k ih =>
    rw [ofList_concat, mem_insert, ih, List.mem_append, List.mem_singleton, or_comm]

end Sets

/-! ## Lists that are in order -/

section Ordered

omit [Std.Trichotomous (α := K) (· < ·)] [IsTrans K (· < ·)]
variable [Std.Asymm (α := K) (· < ·)]

private theorem put_of_forall_lt {key : K} {value : V} {es : List (K × V)}
    (h : ∀ k ∈ es.map Prod.fst, k < key) : put key value es = es ++ [(key, value)] := by
  induction es with
  | nil => rfl
  | cons e es ih =>
    obtain ⟨k, v⟩ := e
    obtain ⟨hlt, hes⟩ := List.forall_mem_cons.mp h
    rw [put, if_neg (Std.Asymm.asymm k key hlt), if_pos hlt, ih hes]
    rfl

theorem ofEntries_eq_self {es : List (K × V)} (h : (es.map Prod.fst).Pairwise (· < ·)) :
    ofEntries es = es := by
  induction es using List.reverseRecOn with
  | nil => rfl
  | append_singleton es e ih =>
    rw [List.map_append, List.map_singleton, List.pairwise_append] at h
    have hlast : ∀ k ∈ es.map Prod.fst, k < e.1 := fun k hk => h.2.2 k hk e.1 (by simp)
    rw [ofEntries_concat, ih h.1, put_of_forall_lt hlast]

end Ordered

end GeneticRepair.Sorted
