import GeneticRepair.Collection.Entries
import Mathlib.Data.List.Induction

/-!
# What is set in a map

The value of a key that has been set is the new one, and no other key changes. So a map has the last
entry of each key of the list that it is made from. A list in which no key comes twice is the map of
its entries.
-/

namespace GeneticRepair.Entries

section Last

variable {K V : Type} {key k : K} {value v : V} {es : List (K × V)}

/-- The last entry of the key has the value. -/
def AtLast (es : List (K × V)) (key : K) (value : V) : Prop :=
  ∃ before after, es = before ++ (key, value) :: after ∧ key ∉ after.map Prod.fst

private theorem not_atLast_nil : ¬ AtLast [] key value := by
  rintro ⟨before, after, h, -⟩
  simp at h

theorem AtLast.mem (h : AtLast es key value) : (key, value) ∈ es := by
  obtain ⟨before, after, rfl, -⟩ := h
  simp

private theorem atLast_concat : AtLast (es ++ [(k, v)]) key value ↔
    key = k ∧ value = v ∨ key ≠ k ∧ AtLast es key value := by
  constructor
  · rintro ⟨before, after, heq, hafter⟩
    rcases List.eq_nil_or_concat after with rfl | ⟨after, e, rfl⟩
    · obtain ⟨-, he⟩ := List.append_inj' heq rfl
      cases he
      exact .inl ⟨rfl, rfl⟩
    · rw [List.concat_eq_append, ← List.cons_append, ← List.append_assoc] at heq
      obtain ⟨rfl, he⟩ := List.append_inj' heq rfl
      cases he
      rw [List.concat_eq_append, List.map_append, List.mem_append, not_or] at hafter
      exact .inr ⟨by simpa using hafter.2, before, after, rfl, hafter.1⟩
  · rintro (⟨rfl, rfl⟩ | ⟨hne, before, after, rfl, hafter⟩)
    · exact ⟨es, [], rfl, List.not_mem_nil⟩
    · refine ⟨before, after ++ [(k, v)], by simp, ?_⟩
      rw [List.map_append, List.mem_append, not_or]
      exact ⟨hafter, by simpa using hne⟩

theorem exists_atLast (h : key ∈ es.map Prod.fst) : ∃ value, AtLast es key value := by
  induction es using List.reverseRecOn with
  | nil => simp at h
  | append_singleton es e ih =>
    obtain ⟨k, v⟩ := e
    by_cases hk : key = k
    · exact ⟨v, atLast_concat.mpr (.inl ⟨hk, rfl⟩)⟩
    · rw [List.map_append, List.mem_append] at h
      obtain ⟨value, hlast⟩ := ih (h.resolve_right (by simpa using hk))
      exact ⟨value, atLast_concat.mpr (.inr ⟨hk, hlast⟩)⟩

theorem atLast_iff_mem (h : (es.map Prod.fst).Nodup) : AtLast es key value ↔ (key, value) ∈ es := by
  refine ⟨AtLast.mem, fun hmem => ?_⟩
  obtain ⟨before, after, rfl⟩ := List.append_of_mem hmem
  rw [List.map_append, List.map_cons] at h
  exact ⟨before, after, rfl, (List.nodup_cons.mp (List.nodup_append.mp h).2.1).1⟩

/-- What is made of a list has the last entry of each key, if one more entry takes the place of all
those of its key. -/
theorem mem_iff_atLast {make : List (K × V) → List (K × V)} (hnil : make [] = [])
    (hconcat : ∀ es k v e, e ∈ make (es ++ [(k, v)]) ↔ e = (k, v) ∨ e ∈ make es ∧ e.1 ≠ k) :
    (key, value) ∈ make es ↔ AtLast es key value := by
  induction es using List.reverseRecOn with
  | nil => simp [hnil, not_atLast_nil]
  | append_singleton es e ih =>
    obtain ⟨k, v⟩ := e
    rw [atLast_concat, ← ih, hconcat, Prod.mk.injEq, and_comm (b := key ≠ k)]

end Last

theorem ofList_concat {K V : Type} [BEq K] (es : List (K × V)) (e : K × V) :
    ofList (es ++ [e]) = set e.1 e.2 (ofList es) := by
  rw [ofList, List.foldl_append]
  rfl

section Renamed

variable {K K' V V' : Type} [BEq K] [BEq K'] {f : K → K'} {g : V → V'}

private theorem set_map (hf : ∀ a b, (f a == f b) = (a == b)) (key : K) (value : V)
    (es : List (K × V)) :
    set (f key) (g value) (es.map (Prod.map f g)) = (set key value es).map (Prod.map f g) := by
  induction es with
  | nil => rfl
  | cons e es ih =>
    obtain ⟨k, v⟩ := e
    simp only [List.map_cons, Prod.map_apply, set, hf, ih]
    split <;> rfl

theorem ofList_map (hf : ∀ a b, (f a == f b) = (a == b)) (es : List (K × V)) :
    ofList (es.map (Prod.map f g)) = (ofList es).map (Prod.map f g) := by
  induction es using List.reverseRecOn with
  | nil => rfl
  | append_singleton es e ih =>
    rw [List.map_append, List.map_singleton, ofList_concat, ofList_concat, ih]
    exact set_map hf e.1 e.2 _

end Renamed

variable {K V : Type} [BEq K] [LawfulBEq K] {key other : K} {value : V} {es : List (K × V)}

theorem lookup_set_self : (set key value es).lookup key = some value := by
  induction es with
  | nil => simp [set]
  | cons e es ih =>
    obtain ⟨k, v⟩ := e
    by_cases hk : k = key
    · simp [set, hk]
    · have hne : (key == k) = false := beq_false_of_ne (Ne.symm hk)
      simp [set, hk, List.lookup_cons, hne, ih]

theorem lookup_set_of_ne (h : other ≠ key) : (set key value es).lookup other = es.lookup other := by
  induction es with
  | nil => simp [set, List.lookup_cons, beq_false_of_ne h]
  | cons e es ih =>
    obtain ⟨k, v⟩ := e
    by_cases hk : k = key
    · subst hk
      simp [set, List.lookup_cons, beq_false_of_ne h]
    · simp [set, hk, List.lookup_cons, ih]

theorem mem_keys_set_iff :
    other ∈ (set key value es).map Prod.fst ↔ other = key ∨ other ∈ es.map Prod.fst := by
  induction es with
  | nil => simp [set]
  | cons e es ih =>
    obtain ⟨k, v⟩ := e
    by_cases hk : k = key
    · simp [set, hk]
    · simp only [set, beq_iff_eq, hk, if_false, List.map_cons, List.mem_cons, ih]
      exact or_left_comm

theorem mem_keys_set (h : other ∈ es.map Prod.fst) : other ∈ (set key value es).map Prod.fst :=
  mem_keys_set_iff.mpr (.inr h)

private theorem set_of_not_mem (h : key ∉ es.map Prod.fst) :
    set key value es = es ++ [(key, value)] := by
  induction es with
  | nil => rfl
  | cons e es ih =>
    obtain ⟨k, v⟩ := e
    rw [List.map_cons, List.mem_cons, not_or] at h
    have hk : (k == key) = false := beq_false_of_ne (Ne.symm h.1)
    rw [set, hk, ih h.2]
    rfl

private theorem nodup_keys_set (h : (es.map Prod.fst).Nodup) :
    ((set key value es).map Prod.fst).Nodup := by
  induction es with
  | nil => simp [set]
  | cons e es ih =>
    obtain ⟨k, v⟩ := e
    rw [List.map_cons, List.nodup_cons] at h
    by_cases hk : k = key
    · rw [set, if_pos (beq_iff_eq.mpr hk), List.map_cons, List.nodup_cons]
      exact h
    · rw [set, if_neg (by simpa using hk), List.map_cons, List.nodup_cons, mem_keys_set_iff, not_or]
      exact ⟨⟨hk, h.1⟩, ih h.2⟩

theorem lookup_eq_some_iff_mem (h : (es.map Prod.fst).Nodup) :
    es.lookup key = some value ↔ (key, value) ∈ es := by
  rw [List.lookup_eq_some_iff]
  constructor
  · rintro ⟨before, after, rfl, -⟩
    simp
  · intro hmem
    obtain ⟨before, after, rfl⟩ := List.append_of_mem hmem
    rw [List.map_append, List.map_cons, List.nodup_append] at h
    refine ⟨before, after, rfl, fun e he => ?_⟩
    simpa using (h.2.2 e.1 (List.mem_map_of_mem he) key List.mem_cons_self).symm

private theorem mem_set {e : K × V} (h : (es.map Prod.fst).Nodup) :
    e ∈ set key value es ↔ e = (key, value) ∨ e ∈ es ∧ e.1 ≠ key := by
  obtain ⟨k, v⟩ := e
  rw [← lookup_eq_some_iff_mem (nodup_keys_set h), ← lookup_eq_some_iff_mem h]
  by_cases hk : k = key
  · subst hk
    simp [lookup_set_self, eq_comm]
  · simp [lookup_set_of_ne hk, hk]

theorem nodup_keys_ofList (es : List (K × V)) : ((ofList es).map Prod.fst).Nodup := by
  induction es using List.reverseRecOn with
  | nil => exact .nil
  | append_singleton es e ih =>
    rw [ofList_concat]
    exact nodup_keys_set ih

theorem mem_ofList : (key, value) ∈ ofList es ↔ AtLast es key value := by
  apply mem_iff_atLast rfl
  intro es k v e
  rw [ofList_concat, mem_set (nodup_keys_ofList es)]

theorem ofList_eq_self (h : (es.map Prod.fst).Nodup) : ofList es = es := by
  induction es using List.reverseRecOn with
  | nil => rfl
  | append_singleton es e ih =>
    rw [List.map_append, List.map_singleton, List.nodup_append] at h
    have hfresh : e.1 ∉ es.map Prod.fst := fun hmem => h.2.2 e.1 hmem e.1 (by simp) rfl
    rw [ofList_concat, ih h.1, set_of_not_mem hfresh]

end GeneticRepair.Entries
