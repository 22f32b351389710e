import GeneticRepair.Collection.RecentlyUsed
import Mathlib.Data.List.Basic
import Mathlib.Data.List.Dedup
import Mathlib.Data.List.DropRight
import Mathlib.Data.List.Perm.Subperm

/-!
# What recently used entries hold

Whatever is found was put, and neither looking up a key nor putting one brings in anything else:
entries are moved or discarded. A key that is not found leaves everything in place.

What is discarded can be read off the history of its use alone. The map holds the last of the
different keys that were used, as many as there is room for, in the order of their last use, each
with the value that was put last.
-/

namespace GeneticRepair.RecentlyUsed

/-! ## Entries -/

section Entries

variable {K V : Type} {m : RecentlyUsed K V} {key : K} {value : V} {entry : K × V}

private theorem mem_of_mem_fitting {entries : List (K × V)} (h : entry ∈ m.fitting entries) :
    entry ∈ entries := by
  unfold fitting at h
  split at h
  · exact List.mem_of_mem_drop h
  · exact h

variable [DecidableEq K]

private theorem mem_of_mem_without (h : entry ∈ m.without key) : entry ∈ m.entries :=
  (List.mem_filter.mp h).1

private theorem mem_of_mem_without_append (h : entry ∈ m.without key ++ [(key, value)]) :
    entry = (key, value) ∨ entry ∈ m.entries := by
  rcases List.mem_append.mp h with hold | hnew
  · exact .inr (mem_of_mem_without hold)
  · exact .inl (List.mem_singleton.mp hnew)

theorem mem_of_mem_put (h : entry ∈ (m.put key value).entries) :
    entry = (key, value) ∨ entry ∈ m.entries :=
  mem_of_mem_without_append (mem_of_mem_fitting h)

private theorem mem_of_lookup {entries : List (K × V)} (h : entries.lookup key = some value) :
    (key, value) ∈ entries := by
  obtain ⟨before, after, rfl, -⟩ := List.lookup_eq_some_iff.mp h
  simp

theorem get_cases (m : RecentlyUsed K V) (key : K) :
    (∃ value m', m.get key = (some value, m') ∧ (key, value) ∈ m.entries ∧
      ∀ entry ∈ m'.entries, entry ∈ m.entries) ∨ m.get key = (none, m) := by
  unfold get
  cases hlookup : m.entries.lookup key with
  | none => exact .inr rfl
  | some value =>
    have hfound : (key, value) ∈ m.entries := mem_of_lookup hlookup
    refine .inl ⟨value, _, rfl, hfound, fun entry hentry => ?_⟩
    rcases mem_of_mem_without_append hentry with rfl | hold
    · exact hfound
    · exact hold

end Entries

variable {K V : Type} [DecidableEq K] {m : RecentlyUsed K V} {room : Nat} {used : List K}
  {key : K} {value : V}

/-! ## Histories -/

/-- The different keys among those that were used, in the order of their last use: the last of them,
as many as there is room for. -/
def recent (room : Nat) (used : List K) : List K :=
  used.dedup.rtake room

inductive Operation (K V : Type) where
  | get (key : K)
  | put (key : K) (value : V)

/-- The keys that have been used after one more operation. A key is used when it is put, and when it
is looked up while it is among the recent ones. -/
def use (room : Nat) (used : List K) : Operation K V → List K
  | .get key => if key ∈ recent room used then used ++ [key] else used
  | .put key _ => used ++ [key]

/-- The keys that a sequence of operations uses, in order. -/
def usedBy (room : Nat) (ops : List (Operation K V)) : List K :=
  ops.foldl (use room) []

def revalue (key : K) (found : Option V) : Operation K V → Option V
  | .get _ => found
  | .put k value => if k = key then some value else found

/-- The value that was put last under a key. -/
def lastPut (ops : List (Operation K V)) (key : K) : Option V :=
  ops.foldl (revalue key) none

private theorem usedBy_concat (room : Nat) (ops : List (Operation K V)) (op : Operation K V) :
    usedBy room (ops ++ [op]) = use room (usedBy room ops) op := by
  rw [usedBy, List.foldl_append]
  rfl

private theorem lastPut_concat (ops : List (Operation K V)) (op : Operation K V) (key : K) :
    lastPut (ops ++ [op]) key = revalue key (lastPut ops key) op := by
  rw [lastPut, List.foldl_append]
  rfl

def perform (m : RecentlyUsed K V) : Operation K V → RecentlyUsed K V
  | .get key => (m.get key).2
  | .put key value => m.put key value

def performAll (m : RecentlyUsed K V) (ops : List (Operation K V)) : RecentlyUsed K V :=
  ops.foldl perform m

/-! ## The recent keys -/

omit [DecidableEq K] in
private theorem rtake_append_of_le {front back : List K} (h : room ≤ back.length) :
    (front ++ back).rtake room = back.rtake room := by
  rw [List.rtake, List.rtake, List.length_append, List.drop_append,
    List.drop_eq_nil_of_le (by omega), List.nil_append]
  congr 1
  omega

omit [DecidableEq K] in
private theorem rtake_of_length_le {l : List K} (h : l.length ≤ room) : l.rtake room = l := by
  rw [List.rtake, Nat.sub_eq_zero_of_le h, List.drop_zero]

omit [DecidableEq K] in
private theorem length_rtake (l : List K) : (l.rtake room).length = min room l.length := by
  rw [List.rtake, List.length_drop]
  omega

private theorem dedup_concat (used : List K) (key : K) :
    (used ++ [key]).dedup = used.dedup.erase key ++ [key] := by
  induction used with
  | nil => simp
  | cons k used ih =>
    by_cases hk : k ∈ used
    · rw [List.cons_append, List.dedup_cons_of_mem (by simp [hk]), List.dedup_cons_of_mem hk, ih]
    · rw [List.cons_append, List.dedup_cons_of_notMem hk]
      by_cases heq : k = key
      · have hnot : k ∉ used.dedup := mt List.mem_dedup.mp hk
        rw [List.dedup_cons_of_mem (by simp [heq]), ih, heq, List.erase_cons_head,
          List.erase_of_not_mem (heq ▸ hnot)]
      · rw [List.dedup_cons_of_notMem (by simp [hk, heq]), ih, List.erase_cons_tail (by simpa),
          List.cons_append]

private theorem nodup_recent (room : Nat) (used : List K) : (recent room used).Nodup :=
  (List.nodup_dedup used).sublist (List.drop_sublist _ _)

private theorem length_recent (room : Nat) (used : List K) :
    (recent room used).length = min room used.dedup.length :=
  length_rtake _

/-- Without repetitions, it does not matter whether a list is cut before or after its last entry is
moved there, if it is cut again. -/
theorem rtake_erase_concat {l : List K} (hl : l.Nodup) :
    (l.erase key ++ [key]).rtake room = ((l.rtake room).erase key ++ [key]).rtake room := by
  by_cases hshort : l.length ≤ room
  · rw [rtake_of_length_le hshort]
  have hback : (l.rtake room).length = room := by
    rw [length_rtake]
    omega
  obtain ⟨front, hsplit⟩ : ∃ front, l = front ++ l.rtake room :=
    ⟨_, (List.take_append_drop (l.length - room) l).symm⟩
  have hdisjoint : ∀ k ∈ front, k ∉ l.rtake room := by
    intro k hfront hrear
    rw [hsplit] at hl
    exact (List.nodup_append.mp hl).2.2 k hfront k hrear rfl
  by_cases hkey : key ∈ front
  · rw [List.erase_of_not_mem (hdisjoint key hkey)]
    conv_lhs => rw [hsplit, List.erase_append_left _ hkey, List.append_assoc]
    exact rtake_append_of_le (by simp [hback])
  · conv_lhs => rw [hsplit, List.erase_append_right _ hkey, List.append_assoc]
    refine rtake_append_of_le ?_
    have herase := List.le_length_erase (a := key) (l := l.rtake room)
    rw [List.length_append, List.length_singleton]
    omega

private theorem recent_concat (room : Nat) (used : List K) (key : K) :
    recent room (used ++ [key]) = ((recent room used).erase key ++ [key]).rtake room := by
  rw [recent, dedup_concat, rtake_erase_concat (List.nodup_dedup used), recent]

private theorem recent_concat_of_mem (h : key ∈ recent room used) :
    recent room (used ++ [key]) = (recent room used).erase key ++ [key] := by
  rw [recent_concat, rtake_of_length_le]
  have hpos := List.length_pos_of_mem h
  have hlength := length_recent room used
  rw [List.length_append, List.length_erase_of_mem h, List.length_singleton]
  omega

private theorem mem_recent_of_room (h : used.dedup.length ≤ room) :
    key ∈ recent room used ↔ key ∈ used := by
  rw [recent, rtake_of_length_le h, List.mem_dedup]

/-! ## What is kept -/

/-- The map holds what is to be kept after the given operations. -/
structure Keeps (room : Nat) (ops : List (Operation K V)) (m : RecentlyUsed K V) : Prop where
  capacity : m.capacity = some room
  keys : m.entries.map Prod.fst = recent room (usedBy room ops)
  values : ∀ entry ∈ m.entries, lastPut ops entry.1 = some entry.2

theorem keeps_empty (room : Nat) : Keeps room [] (empty (some room) : RecentlyUsed K V) := by
  refine ⟨rfl, ?_, fun entry hentry => nomatch hentry⟩
  simp [empty, usedBy, recent, List.rtake]

private theorem keys_without (h : (m.entries.map Prod.fst).Nodup) (key : K) :
    (m.without key).map Prod.fst = (m.entries.map Prod.fst).erase key := by
  rw [h.erase_eq_filter, List.filter_map]
  congr 1
  refine List.filter_congr fun entry _ => ?_
  by_cases heq : entry.1 = key <;> simp [heq]

private theorem ne_of_mem_without {entry : K × V} (h : entry ∈ m.without key) : entry.1 ≠ key := by
  simpa using (List.mem_filter.mp h).2

namespace Keeps

variable {ops : List (Operation K V)}

private theorem nodup (h : Keeps room ops m) : (m.entries.map Prod.fst).Nodup := by
  rw [h.keys]
  exact nodup_recent _ _

private theorem get_of_mem (h : Keeps room ops m) (hkey : key ∈ recent room (usedBy room ops)) :
    ∃ value, lastPut ops key = some value ∧
      m.get key = (some value, { m with entries := m.without key ++ [(key, value)] }) := by
  rw [← h.keys] at hkey
  obtain ⟨entry, hentry, rfl⟩ := List.mem_map.mp hkey
  have hfound : (m.entries.lookup entry.1).isSome :=
    List.lookup_isSome_iff.mpr ⟨entry, hentry, beq_self_eq_true entry.1⟩
  obtain ⟨value, hvalue⟩ := Option.isSome_iff_exists.mp hfound
  refine ⟨value, h.values _ (mem_of_lookup hvalue), ?_⟩
  rw [get, hvalue]

private theorem get_of_not_mem (h : Keeps room ops m) (hkey : key ∉ recent room (usedBy room ops)) :
    m.get key = (none, m) := by
  rw [← h.keys] at hkey
  have hnone : m.entries.lookup key = none := by
    refine List.lookup_eq_none_iff.mpr fun entry hentry => ?_
    rw [bne_iff_ne]
    rintro rfl
    exact hkey (List.mem_map_of_mem hentry)
  rw [get, hnone]

private theorem get (h : Keeps room ops m) (key : K) :
    Keeps room (ops ++ [.get key]) (m.get key).2 := by
  have hvalues : ∀ k, lastPut (ops ++ [.get key]) k = lastPut ops k := lastPut_concat ops _
  have hused := usedBy_concat room ops (.get key)
  by_cases hkey : key ∈ recent room (usedBy room ops)
  · obtain ⟨value, hlast, hget⟩ := h.get_of_mem hkey
    rw [use, if_pos hkey] at hused
    rw [hget]
    refine ⟨h.capacity, ?_, fun entry hentry => ?_⟩
    · rw [hused, recent_concat_of_mem hkey, List.map_append, keys_without h.nodup, h.keys]
      rfl
    · rw [hvalues]
      rcases List.mem_append.mp hentry with hold | hnew
      · exact h.values entry (mem_of_mem_without hold)
      · rw [List.mem_singleton.mp hnew, hlast]
  · rw [use, if_neg hkey] at hused
    rw [h.get_of_not_mem hkey]
    refine ⟨h.capacity, ?_, fun entry hentry => ?_⟩
    · rw [hused, h.keys]
    · rw [hvalues, h.values entry hentry]

private theorem put (h : Keeps room ops m) (key : K) (value : V) :
    Keeps room (ops ++ [.put key value]) (m.put key value) := by
  have hvalues : ∀ k, lastPut (ops ++ [.put key value]) k =
      if key = k then some value else lastPut ops k := lastPut_concat ops _
  have hused := usedBy_concat room ops (.put key value)
  have hfit : (m.put key value).entries = (m.without key ++ [(key, value)]).rtake room := by
    rw [RecentlyUsed.put, fitting, h.capacity, List.rtake]
  refine ⟨h.capacity, ?_, fun entry hentry => ?_⟩
  · rw [hfit, hused, use, recent_concat, List.rtake, List.map_drop, List.map_append,
      keys_without h.nodup, h.keys, List.rtake, List.length_append, List.length_append,
      ← List.length_map (Prod.fst : K × V → K), keys_without h.nodup, h.keys]
    rfl
  · rw [hfit] at hentry
    rw [hvalues]
    rcases List.mem_append.mp (List.mem_of_mem_drop hentry) with hold | hnew
    · rw [if_neg (Ne.symm (ne_of_mem_without hold))]
      exact h.values entry (mem_of_mem_without hold)
    · rw [List.mem_singleton.mp hnew, if_pos rfl]

private theorem perform (h : Keeps room ops m) (op : Operation K V) :
    Keeps room (ops ++ [op]) (m.perform op) := by
  cases op with
  | get key => exact h.get key
  | put key value => exact h.put key value

private theorem size_eq (h : Keeps room ops m) :
    m.size = min room (usedBy room ops).dedup.length := by
  rw [size, ← length_recent, ← h.keys, List.length_map]

end Keeps

private theorem keeps_performAll (room : Nat) (ops : List (Operation K V)) :
    Keeps room ops (performAll (empty (some room)) ops) := by
  induction ops using List.reverseRecOn with
  | nil => exact keeps_empty room
  | append_singleton ops op ih =>
    rw [performAll, List.foldl_append]
    exact ih.perform op

/-- After any operations, the keys that are held are the recent ones, in order, each with the value
that was put last. Just these are found. -/
theorem kept_performAll (room : Nat) (ops : List (Operation K V)) :
    let m := performAll (empty (some room)) ops
    let kept := recent room (usedBy room ops)
    m.entries.map Prod.fst = kept ∧ kept.length = min room (usedBy room ops).dedup.length ∧
      (∀ entry ∈ m.entries, lastPut ops entry.1 = some entry.2) ∧
      (∀ key ∈ kept, ∃ value, lastPut ops key = some value ∧ (m.get key).1 = some value) ∧
      (∀ key ∉ kept, (m.get key).1 = none) ∧ m.size ≤ room := by
  have hkeeps := keeps_performAll room ops
  refine ⟨hkeeps.keys, length_recent _ _, hkeeps.values, fun key hkey => ?_, fun key hkey => ?_, ?_⟩
  · obtain ⟨value, hlast, hget⟩ := hkeeps.get_of_mem hkey
    exact ⟨value, hlast, congrArg Prod.fst hget⟩
  · rw [hkeeps.get_of_not_mem hkey]
  · rw [hkeeps.size_eq]
    exact Nat.min_le_left _ _

/-! ## Keys that are held -/

private theorem mem_of_mem_recent (h : key ∈ recent room used) : key ∈ used :=
  List.mem_dedup.mp (List.mem_of_mem_drop h)

/-- Just these keys have been used, in some order. -/
def Used (room : Nat) (held : K → Prop) (m : RecentlyUsed K V) : Prop :=
  ∃ ops, Keeps room ops m ∧ ∀ key, key ∈ usedBy room ops ↔ held key

namespace Used

variable {held held' : K → Prop}

theorem congr (h : Used room held m) (hheld : ∀ key, held key ↔ held' key) :
    Used room held' m := by
  obtain ⟨ops, hkeeps, hused⟩ := h
  exact ⟨ops, hkeeps, fun key => (hused key).trans (hheld key)⟩

theorem get (h : Used room held m) (key : K) : Used room held (m.get key).2 := by
  obtain ⟨ops, hkeeps, hused⟩ := h
  refine ⟨_, hkeeps.get key, fun k => ?_⟩
  rw [usedBy_concat, use, ← hused]
  split
  · rename_i hrecent
    rw [List.mem_append, List.mem_singleton]
    refine ⟨fun hk => hk.elim id ?_, .inl⟩
    rintro rfl
    exact mem_of_mem_recent hrecent
  · rfl

theorem put (h : Used room held m) (key : K) (value : V) :
    Used room (fun k => held k ∨ k = key) (m.put key value) := by
  obtain ⟨ops, hkeeps, hused⟩ := h
  refine ⟨_, hkeeps.put key value, fun k => ?_⟩
  rw [usedBy_concat, use, List.mem_append, List.mem_singleton, hused]

theorem found_iff (h : Used room held m) {keys : List K} (hheld : ∀ key, held key → key ∈ keys)
    (hroom : keys.dedup.length ≤ room) (key : K) : (m.get key).1.isSome = true ↔ held key := by
  obtain ⟨ops, hkeeps, hused⟩ := h
  have hsubset : (usedBy room ops).dedup ⊆ keys.dedup := by
    intro k hk
    exact List.mem_dedup.mpr (hheld k ((hused k).mp (List.mem_dedup.mp hk)))
  have hfits : (usedBy room ops).dedup.length ≤ room :=
    (List.subperm_of_subset (List.nodup_dedup _) hsubset).length_le.trans hroom
  rw [← hused, ← mem_recent_of_room hfits]
  constructor
  · intro hfound
    by_contra hkey
    rw [hkeeps.get_of_not_mem hkey] at hfound
    cases hfound
  · intro hkey
    obtain ⟨value, -, hget⟩ := hkeeps.get_of_mem hkey
    rw [hget]
    rfl

end Used

end GeneticRepair.RecentlyUsed
