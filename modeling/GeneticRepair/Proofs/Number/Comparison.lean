import GeneticRepair.Number.Quantity
import Mathlib.Algebra.Order.Ring.Int
import Mathlib.Data.Nat.ModEq
import Mathlib.Tactic.Common

/-!
# Numbers compared

Numbers compare with each other in both directions alike, be they integers or floats. Only a float
that is no number differs from itself, and numbers that are the same have one fingerprint.
-/

namespace GeneticRepair.Number

open Float.Model (UnpackedFloat)

/-! ## Floats -/

private theorem compare_self {u : UnpackedFloat} (h : u ≠ .notANumber) :
    u.compare u = some .eq := by
  cases u with
  | notANumber => exact absurd rfl h
  | infinity s => cases s <;> rfl
  | zero s => rfl
  | finite s m e hm =>
    have hparts : (compare e e).then (compare m m) = .eq := by simp
    cases s with
    | negative => exact congrArg (fun o => some o.swap) hparts
    | positive => exact congrArg some hparts

private theorem compare_notANumber (u : UnpackedFloat) : u.compare .notANumber = none := by
  cases u with
  | infinity s => cases s <;> rfl
  | _ => rfl

private theorem compare_swap (u v : UnpackedFloat) :
    v.compare u = (u.compare v).map Ordering.swap := by
  cases u with
  | notANumber => exact compare_notANumber v
  | infinity s =>
    cases v with
    | notANumber => cases s <;> rfl
    | infinity s' => cases s <;> cases s' <;> rfl
    | zero s' => cases s <;> rfl
    | finite s' => cases s <;> cases s' <;> rfl
  | zero s =>
    cases v with
    | notANumber => rfl
    | infinity s' => cases s' <;> rfl
    | zero s' => rfl
    | finite s' => cases s' <;> rfl
  | finite s m e hm =>
    cases v with
    | notANumber => cases s <;> rfl
    | infinity s' => cases s <;> cases s' <;> rfl
    | zero s' => cases s <;> rfl
    | finite s' m' e' hm' =>
      have hparts : (compare e' e).then (compare m' m) =
          ((compare e e').then (compare m m')).swap := by
        simp [Ordering.swap_then, Int.compare_swap, Nat.compare_swap]
      cases s <;> cases s'
      · exact congrArg (fun o => some o.swap) hparts
      · rfl
      · rfl
      · exact congrArg some hparts

private theorem compare_eq_none {u v : UnpackedFloat} (h : u.compare v = none) :
    u = .notANumber ∨ v = .notANumber := by
  cases u with
  | notANumber => exact .inl rfl
  | infinity s =>
    cases v with
    | notANumber => exact .inr rfl
    | infinity s' => cases s <;> cases s' <;> cases h
    | _ => cases s <;> cases h
  | zero s =>
    cases v with
    | notANumber => exact .inr rfl
    | zero s' => cases h
    | infinity s' => cases s' <;> cases h
    | finite s' => cases s' <;> cases h
  | finite s m e hm =>
    cases v with
    | notANumber => exact .inr rfl
    | zero s' => cases s <;> cases h
    | infinity s' => cases s <;> cases s' <;> cases h
    | finite s' => cases s <;> cases s' <;> cases h

private theorem eq_of_compare_sign {s s' : UnpackedFloat.Sign} (h : compare s s' = .eq) :
    s = s' := by
  cases s <;> cases s' <;> first | rfl | cases h

private theorem compare_eq_some_eq {u v : UnpackedFloat} (h : u.compare v = some .eq) :
    u = v ∨ ∃ s s', u = .zero s ∧ v = .zero s' := by
  cases u with
  | notANumber => cases h
  | infinity s =>
    cases v with
    | infinity s' => exact .inl (congrArg _ (eq_of_compare_sign (Option.some.inj h)))
    | _ => cases s <;> cases h
  | zero s =>
    cases v with
    | zero s' => exact .inr ⟨s, s', rfl, rfl⟩
    | notANumber => cases h
    | infinity s' => cases s' <;> cases h
    | finite s' => cases s' <;> cases h
  | finite s m e hm =>
    cases v with
    | finite s' m' e' hm' =>
      have hparts : s = s' ∧ compare e e' = .eq ∧ compare m m' = .eq := by
        cases s <;> cases s'
        · exact ⟨rfl, Ordering.then_eq_eq.mp (Ordering.swap_eq_eq.mp (Option.some.inj h))⟩
        · cases h
        · cases h
        · exact ⟨rfl, Ordering.then_eq_eq.mp (Option.some.inj h)⟩
      obtain ⟨rfl, he, hm⟩ := hparts
      obtain rfl := compare_eq_iff_eq.mp he
      obtain rfl := compare_eq_iff_eq.mp hm
      exact .inl rfl
    | notANumber => cases s <;> cases h
    | infinity s' => cases s <;> cases s' <;> cases h
    | zero s' => cases s <;> cases h

private theorem lt_iff_compare {x y : Float} :
    x < y ↔ x.toModel.unpack.compare y.toModel.unpack = some .lt := by
  have hlt : x < y ↔ decide (x.toModel.unpack.lt y.toModel.unpack = true) = true := Iff.rfl
  rw [hlt, decide_eq_true_iff]
  exact beq_iff_eq

private theorem compareFloats_eq (x y : Float) :
    compareFloats x y = x.toModel.unpack.compare y.toModel.unpack := by
  have hbeq : (x == y) = true ↔ x.toModel.unpack.compare y.toModel.unpack = some .eq := by
    change (x.toModel.unpack.compare y.toModel.unpack == some .eq) = true ↔ _
    exact beq_iff_eq
  simp only [compareFloats, hbeq, lt_iff_compare, compare_swap x.toModel.unpack]
  rcases x.toModel.unpack.compare y.toModel.unpack with _ | (_ | _ | _) <;> rfl

/-! ## Numbers -/

theorem compare?_swap (a b : Number) : compare? b a = (compare? a b).map Ordering.swap := by
  have hcancel : ∀ o : Option Ordering, o = (o.map Ordering.swap).map Ordering.swap := by
    rintro (_ | o)
    · rfl
    · simp
  cases a with
  | int m =>
    cases b with
    | int n => simp [compare?, Int.compare_swap]
    | float y => rfl
  | float x =>
    cases b with
    | int n => exact hcancel (compareIntFloat n x)
    | float y =>
      change compareFloats y x = (compareFloats x y).map Ordering.swap
      rw [compareFloats_eq, compareFloats_eq, compare_swap]

private theorem exact_of_unpack {x : Float} (h : x.toModel.unpack = .notANumber) :
    exact x = .notANumber := by
  rw [exact, h]

private theorem exact_of_compareIntFloat {n : Int} {x : Float} (h : compareIntFloat n x = none) :
    exact x = .notANumber := by
  rw [compareIntFloat] at h
  cases hx : exact x with
  | notANumber => rfl
  | _ =>
    rw [hx] at h
    cases h

variable {a b : Number}

theorem compare?_eq_none (h : compare? a b = none) :
    (∃ x, a = .float x ∧ exact x = .notANumber) ∨ ∃ x, b = .float x ∧ exact x = .notANumber := by
  cases a with
  | int m =>
    cases b with
    | int n => cases h
    | float y => exact .inr ⟨y, rfl, exact_of_compareIntFloat h⟩
  | float x =>
    cases b with
    | int n => exact .inl ⟨x, rfl, exact_of_compareIntFloat (Option.map_eq_none_iff.mp h)⟩
    | float y =>
      change compareFloats x y = none at h
      rw [compareFloats_eq] at h
      cases compare_eq_none h with
      | inl hx => exact .inl ⟨x, rfl, exact_of_unpack hx⟩
      | inr hy => exact .inr ⟨y, rfl, exact_of_unpack hy⟩

theorem compare?_of_less (h : less a b = true) : compare? a b = some .lt :=
  beq_iff_eq.mp h

private theorem compare?_of_same (h : same a b = true) : compare? a b = some .eq :=
  beq_iff_eq.mp h

theorem not_less_of_less (h : less a b = true) : less b a = false := by
  rw [less, compare?_swap, compare?_of_less h]
  rfl

theorem not_same_of_less (h : less a b = true) : same a b = false ∧ same b a = false := by
  rw [same, same, compare?_swap a b, compare?_of_less h]
  exact ⟨rfl, rfl⟩

theorem same_self_float (x : Float) : same (float x) (float x) = !x.isNaN := by
  change (compareFloats x x == some .eq) = !x.toModel.unpack.isNaN
  rw [compareFloats_eq]
  cases x.toModel.unpack with
  | notANumber => rfl
  | infinity s => cases s <;> rfl
  | zero s => rfl
  | finite s m e hm =>
    rw [compare_self (u := .finite s m e hm) nofun]
    rfl

theorem same_self_of_less {x : Float} (h : less (float x) a = true) : same a a = true := by
  cases a with
  | int n => simp [same, compare?]
  | float y =>
    have hcompare : compareFloats x y = some .lt := compare?_of_less h
    rw [compareFloats_eq] at hcompare
    have hnumber : y.toModel.unpack ≠ .notANumber := by
      intro hnot
      rw [hnot, compare_notANumber] at hcompare
      cases hcompare
    change (compareFloats y y == some .eq) = true
    rw [compareFloats_eq, compare_self hnumber]
    rfl

/-! ## Residues -/

private theorem two_pow_modEq {a b : Nat} (h : a % 61 = b % 61) :
    2 ^ a ≡ 2 ^ b [MOD fingerprintModulus] := by
  have hreduce : ∀ k : Nat, 2 ^ k ≡ 2 ^ (k % 61) [MOD fingerprintModulus] := by
    intro k
    have hroot : 2 ^ 61 ≡ 1 [MOD fingerprintModulus] := by decide
    calc 2 ^ k = (2 ^ 61) ^ (k / 61) * 2 ^ (k % 61) := by rw [← pow_mul, ← pow_add, Nat.div_add_mod]
      _ ≡ 1 ^ (k / 61) * 2 ^ (k % 61) [MOD fingerprintModulus] := (hroot.pow _).mul_right _
      _ = 2 ^ (k % 61) := by rw [one_pow, one_mul]
  exact (hreduce a).trans (h ▸ (hreduce b).symm)

private theorem mul_two_pow_modEq {n m : Nat} {e : Int} (h : n * 2 ^ (-e).toNat = m * 2 ^ e.toNat) :
    m * 2 ^ (e % 61).toNat ≡ n [MOD fingerprintModulus] := by
  rcases Int.le_total 0 e with he | he
  · rw [Int.toNat_of_nonpos (by omega), pow_zero, mul_one] at h
    rw [h]
    exact (two_pow_modEq (by omega)).mul_left m
  · rw [Int.toNat_of_nonpos he, pow_zero, mul_one] at h
    rw [← h, mul_assoc, ← pow_add]
    have hmultiple : 2 ^ ((-e).toNat + (e % 61).toNat) ≡ 2 ^ 0 [MOD fingerprintModulus] :=
      two_pow_modEq (by omega)
    calc n * 2 ^ ((-e).toNat + (e % 61).toNat) ≡ n * 2 ^ 0 [MOD fingerprintModulus] :=
        hmultiple.mul_left n
      _ = n := by rw [pow_zero, mul_one]

private theorem natAbs_signed (negative : Bool) (m : Nat) : (signed negative m).natAbs = m := by
  cases negative <;> simp [signed]

private theorem signed_neg_iff {negative : Bool} {m : Nat} (hm : m ≠ 0) :
    signed negative m < 0 ↔ negative = true := by
  cases negative with
  | true => simpa [signed] using Nat.pos_of_ne_zero hm
  | false => simp [signed]

private theorem residue_eq {n : Int} {negative : Bool} {m : Nat} {e : Int}
    (h : n * Nat.pow 2 (-e).toNat = signed negative m * Nat.pow 2 e.toNat) :
    residue (n < 0) n.natAbs 0 = residue negative m e := by
  have habs : n.natAbs * 2 ^ (-e).toNat = m * 2 ^ e.toNat := by
    have habs := congrArg Int.natAbs h
    rwa [Int.natAbs_mul, Int.natAbs_mul, natAbs_signed] at habs
  have hmod : n.natAbs % fingerprintModulus = m * 2 ^ (e % 61).toNat % fingerprintModulus :=
    (mul_two_pow_modEq habs).symm
  have hzero : n.natAbs * Nat.pow 2 ((0 : Int) % 61).toNat = n.natAbs := Nat.mul_one _
  rw [residue, residue, hzero, hmod]
  by_cases hm : m = 0
  · simp [hm, signed]
  · have hsign : n < 0 ↔ signed negative m < 0 := by
      have hpos : ∀ k : Nat, Int.sign (Nat.pow 2 k) = 1 := fun k =>
        Int.sign_eq_one_of_pos (Int.natCast_pos.mpr (Nat.two_pow_pos k))
      have hsigns := congrArg Int.sign h
      rw [Int.sign_mul, Int.sign_mul, hpos, hpos, mul_one, mul_one] at hsigns
      rw [← Int.sign_eq_neg_one_iff_neg, hsigns, Int.sign_eq_neg_one_iff_neg]
    have hnegative : decide (n < 0) = negative := by
      rw [Bool.eq_iff_iff, decide_eq_true_iff, hsign, signed_neg_iff hm]
    rw [hnegative]
    rfl

/-! ## Fingerprints -/

private theorem fingerprint_of_compareIntFloat {n : Int} {x : Float}
    (h : compareIntFloat n x = some .eq) :
    (int n).fingerprint = (float x).fingerprint := by
  rw [fingerprint, fingerprint]
  rw [compareIntFloat] at h
  cases hx : exact x with
  | notANumber =>
    rw [hx] at h
    cases h
  | infinity negative =>
    rw [hx] at h
    cases negative <;> cases h
  | finite negative m e =>
    rw [hx] at h
    exact residue_eq (compare_eq_iff_eq.mp (Option.some.inj h))

private theorem fingerprint_of_compareFloats {x y : Float} (h : compareFloats x y = some .eq) :
    (float x).fingerprint = (float y).fingerprint := by
  rw [fingerprint, fingerprint, exact, exact]
  rw [compareFloats_eq] at h
  rcases compare_eq_some_eq h with heq | ⟨s, s', hx, hy⟩
  · rw [heq]
  · rw [hx, hy]
    cases s <;> cases s' <;> rfl

/-- Numbers that are the same have the same fingerprint. -/
theorem fingerprint_of_same (h : same a b = true) :
    a.fingerprint = b.fingerprint := by
  have hcompare := compare?_of_same h
  cases a with
  | int m =>
    cases b with
    | int n => rw [compare_eq_iff_eq.mp (Option.some.inj hcompare)]
    | float y => exact fingerprint_of_compareIntFloat hcompare
  | float x =>
    cases b with
    | int n =>
      obtain ⟨o, ho, hswap⟩ := Option.map_eq_some_iff.mp hcompare
      obtain rfl := Ordering.swap_eq_eq.mp hswap
      exact (fingerprint_of_compareIntFloat ho).symm
    | float y => exact fingerprint_of_compareFloats hcompare

end GeneticRepair.Number
