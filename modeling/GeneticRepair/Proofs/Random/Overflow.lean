import GeneticRepair.Number.Quantity
import GeneticRepair.Proofs.Random
import Mathlib.Algebra.Order.Ring.Int

/-!
# Draws that fail

Integers are added exactly, and become floats when they meet one. So a draw fails only if the sum of
some integers among the weights is too large for a float.
-/

namespace GeneticRepair

/-! ## Operations that meet a float -/

namespace Number

def Exceeds (n : Int) : Prop :=
  floatOfInt n = .error .overflow

private theorem eq_overflow_of_floatOfInt {n : Int} {e : ArithmeticError}
    (h : floatOfInt n = .error e) : e = .overflow := by
  rw [floatOfInt] at h
  split at h
  · exact (Except.error.inj h).symm
  · cases h

private theorem meets_toFloat (a : Number) :
    Meets (fun _ => True) (fun e => e = .overflow ∧ ∃ n, a = .int n ∧ Exceeds n) (toFloat a) := by
  cases a with
  | int n =>
    change Meets _ _ (floatOfInt n)
    cases hn : floatOfInt n with
    | ok x => exact trivial
    | error e =>
      obtain rfl := eq_overflow_of_floatOfInt hn
      exact ⟨rfl, n, rfl, hn⟩
  | float x => exact trivial

private theorem meets_viaFloats (op : Float → Float → Float) (a b : Number) :
    Meets (fun c => ∃ x, c = .float x)
      (fun e => e = .overflow ∧ ∃ n, (a = .int n ∨ b = .int n) ∧ Exceeds n) (viaFloats op a b) := by
  have hfloat : ∀ c : Number, c = a ∨ c = b → Meets (fun _ => True)
      (fun e => e = .overflow ∧ ∃ n, (a = .int n ∨ b = .int n) ∧ Exceeds n) (toFloat c) := by
    intro c hc
    refine (meets_toFloat c).mono (fun _ h => h) ?_
    rintro e ⟨he, n, rfl, hn⟩
    exact ⟨he, n, hc.imp Eq.symm Eq.symm, hn⟩
  refine (hfloat a (.inl rfl)).bind fun x _ => (hfloat b (.inr rfl)).bind fun y _ => ?_
  exact ⟨op x y, rfl⟩

private theorem meets_add (a b : Number) :
    Meets (fun c => (∃ x, c = .float x) ∨ ∃ m n, a = .int m ∧ b = .int n ∧ c = .int (m + n))
      (fun e => e = .overflow ∧ ∃ n, (a = .int n ∨ b = .int n) ∧ Exceeds n) (add a b) := by
  cases a with
  | int m =>
    cases b with
    | int n => exact .inr ⟨m, n, rfl, rfl, rfl⟩
    | float y => exact (meets_viaFloats _ _ _).mono (fun _ h => .inl h) fun _ h => h
  | float x => exact (meets_viaFloats _ _ _).mono (fun _ h => .inl h) fun _ h => h

end Number

namespace Quantity

open Number (Exceeds)

variable {q : Quantity} {qs before after : List Quantity} {e : ArithmeticError}

private theorem meets_map {α : Type} {value : Quantity → Prop} {failure : ArithmeticError → Prop}
    {a : Except ArithmeticError α} {f : α → Quantity} (h : Meets (fun c => value (f c)) failure a) :
    Meets value failure (a >>= fun c => pure (f c)) := by
  cases a with
  | ok c => exact h
  | error e => exact h

/-! ## Sums -/

def integers (qs : List Quantity) : List Int :=
  qs.filterMap int?

/-- The sum of some integers among the quantities is too large for a float. -/
def Overflows (qs : List Quantity) (e : ArithmeticError) : Prop :=
  e = .overflow ∧ ∃ ns : List Int, ns.Sublist (integers qs) ∧ Exceeds ns.sum

/-- The quantity is a float, or the sum of some integers among the others. -/
def Sums (qs : List Quantity) (q : Quantity) : Prop :=
  (∃ x, q.value = .float x) ∨ ∃ ns : List Int, ns.Sublist (integers qs) ∧ q.value = .int ns.sum

private theorem int?_eq_some {n : Int} : q.int? = some n ↔ q.value = .int n := by
  unfold int?
  split
  · next m hm => rw [hm, Option.some.injEq, Number.int.injEq]
  · next x hx => simp [hx]

private theorem singleton_sublist_integers {n : Int} (hq : q ∈ qs) (hn : q.value = .int n) :
    [n].Sublist (integers qs) :=
  List.singleton_sublist.mpr (List.mem_filterMap.mpr ⟨q, hq, int?_eq_some.mpr hn⟩)

private theorem meets_add (hq : Sums before q) (w : Quantity) :
    Meets (Sums (before ++ [w])) (Overflows (before ++ [w])) (Scalar.add q w) := by
  have hbefore : ∀ {ns : List Int}, ns.Sublist (integers before) →
      ns.Sublist (integers (before ++ [w])) := by
    intro ns hns
    rw [integers, List.filterMap_append]
    exact hns.trans (List.sublist_append_left _ _)
  refine meets_map ((Number.meets_add q.value w.value).mono ?_ ?_)
  · rintro c (⟨x, rfl⟩ | ⟨m, n, hm, hn, rfl⟩)
    · exact .inl ⟨x, rfl⟩
    · obtain ⟨x, hx⟩ | ⟨ns, hns, hsum⟩ := hq
      · cases hm.symm.trans hx
      · obtain rfl := Number.int.inj (hm.symm.trans hsum)
        refine .inr ⟨ns ++ [n], ?_, ?_⟩
        · have hw : integers [w] = [n] := by simp [integers, int?_eq_some.mpr hn]
          rw [integers, List.filterMap_append]
          exact hns.append (hw ▸ List.Sublist.refl _)
        · rw [List.sum_append, List.sum_singleton]
          rfl
  · rintro e ⟨he, n, hn | hn, hexceeds⟩
    · obtain ⟨x, hx⟩ | ⟨ns, hns, hsum⟩ := hq
      · cases hn.symm.trans hx
      · obtain rfl := Number.int.inj (hn.symm.trans hsum)
        exact ⟨he, ns, hbefore hns, hexceeds⟩
    · refine ⟨he, [n], singleton_sublist_integers (by simp) hn, ?_⟩
      rwa [List.sum_singleton]

private theorem Overflows.mono {qs' : List Quantity} (h : Overflows qs e) (hqs : qs.Sublist qs') :
    Overflows qs' e := by
  obtain ⟨he, ns, hns, hexceeds⟩ := h
  exact ⟨he, ns, hns.trans (hqs.filterMap int?), hexceeds⟩

private theorem meets_foldlM_add (hq : Sums before q) :
    Meets (Sums (before ++ after)) (Overflows (before ++ after)) (after.foldlM Scalar.add q) := by
  induction after generalizing before q with
  | nil =>
    rw [List.append_nil]
    exact hq
  | cons w after ih =>
    rw [List.foldlM_cons, List.append_cons]
    refine ((meets_add hq w).mono (fun _ h => h) fun e he => ?_).bind fun q' hq' => ih hq'
    exact he.mono (List.sublist_append_left _ _)

private theorem meets_sum (qs : List Quantity) :
    Meets (Sums qs) (Overflows qs) (Scalar.sum qs) := by
  have hzero : Sums [] (Scalar.zero : Quantity) := .inr ⟨[], .slnil, rfl⟩
  exact meets_foldlM_add hzero

private theorem meets_mul_ofUnit (hq : Sums qs q) (k : Nat) :
    Meets (fun _ => True) (Overflows qs) (Scalar.mul (Scalar.ofUnit k) q) := by
  refine meets_map ((Number.meets_viaFloats (· * ·) (Scalar.ofUnit k) q.value).mono
    (fun _ _ => trivial) ?_)
  rintro e ⟨he, n, hn | hn, hexceeds⟩
  · cases hn
  · obtain ⟨x, hx⟩ | ⟨ns, hns, hsum⟩ := hq
    · cases hn.symm.trans hx
    · obtain rfl := Number.int.inj (hn.symm.trans hsum)
      exact ⟨he, ns, hns, hexceeds⟩

private theorem meets_add_float {x : Float} (hq : q.value = .float x) {w : Quantity} (hw : w ∈ qs) :
    Meets (fun r => ∃ y, r.value = .float y) (Overflows qs) (Scalar.add q w) := by
  refine meets_map ((Number.meets_add q.value w.value).mono ?_ ?_)
  · rintro c (hfloat | ⟨m, n, hm, -⟩)
    · exact hfloat
    · cases hm.symm.trans hq
  · rintro e ⟨he, n, hn | hn, hexceeds⟩
    · cases hn.symm.trans hq
    · refine ⟨he, [n], singleton_sublist_integers hw hn, ?_⟩
      rwa [List.sum_singleton]

end Quantity

/-! ## Draws -/

namespace Random

open Quantity (Overflows)

variable {G K : Type} [RandomSource G] {qs : List Quantity}

private theorem meets_keyBeyond {bound sum : Quantity} {x : Float} (hsum : sum.value = .float x)
    {entries : List (K × Quantity)} (hqs : ∀ entry ∈ entries, entry.2 ∈ qs) (fallback : K) :
    Meets (fun _ => True) (Overflows qs) (keyBeyond bound fallback sum entries) := by
  induction entries generalizing sum x fallback with
  | nil => exact trivial
  | cons entry entries ih =>
    obtain ⟨hentry, hrest⟩ := List.forall_mem_cons.mp hqs
    obtain ⟨key, weight⟩ := entry
    refine (Quantity.meets_add_float hsum hentry).bind ?_
    rintro r ⟨y, hy⟩
    split
    · exact trivial
    · exact ih hy hrest key

/-- A draw gives one of the keys, or the sum of some integer weights is too large. -/
theorem ends_weightedChoice_quantity (entry : K × Quantity) (entries : List (K × Quantity)) :
    Ends (fun _ : G => True) (weightedChoice (entry :: entries))
      (fun key => key ∈ (entry :: entries).map Prod.fst)
      fun e => ∃ a, Overflows ((entry :: entries).map Prod.snd) a ∧ e = .arithmetic a := by
  refine ends_weightedChoice_of _ _ (Quantity.meets_sum _)
    (fun k t ht => Quantity.meets_mul_ofUnit ht k) fun bound shuffled hperm => ?_
  have horigin : ∃ x, (Scalar.origin : Quantity).value = .float x := ⟨_, rfl⟩
  obtain ⟨x, hx⟩ := horigin
  exact meets_keyBeyond hx (fun e he => List.mem_map_of_mem (hperm.subset he)) entry.1

end Random

end GeneticRepair
