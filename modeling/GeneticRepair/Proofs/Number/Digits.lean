import GeneticRepair.Number.Digits
import Mathlib.Tactic.Common

/-!
# Integers that are read

An integer of at most 4300 digits is read as it is written. Digits of other scripts are read too, if
they are decimal digits; a text of characters that have a digit value is read without margins, signs
or underscores.
-/

namespace GeneticRepair.Number

open GeneticRepair.Text

variable {c : Char} {cs : List Char} {n : Nat}

/-- The integer has at most 4300 digits. -/
def Short (n : Int) : Prop :=
  (Nat.toDigits 10 n.natAbs).length ≤ 4300

theorem short_iff {n : Int} : Short n ↔ n.natAbs < Nat.pow 10 4300 := by
  rw [Short]
  generalize hlimit : 4300 = limit
  exact Nat.length_toDigits_le_iff (by decide) (by omega)

private theorem decimalValue?_of_isDigit (h : c.isDigit = true) :
    decimalValue? c = some (c.toNat - '0'.toNat) := by
  simp only [Char.isDigit, Bool.and_eq_true, decide_eq_true_eq, ge_iff_le, UInt32.le_iff_toNat_le] at h
  have hrange : 0x30 ≤ c.toNat ∧ c.toNat < 0x30 + 10 := ⟨h.1, Nat.lt_succ_of_le h.2⟩
  rw [decimalValue?, decimalZeros, decimalValueIn, if_pos (by simpa using hrange)]
  rfl

theorem digitValues_of_isDigit (hne : cs ≠ []) (h : ∀ c ∈ cs, c.isDigit = true) :
    digitValues cs = some (cs.map fun c => c.toNat - '0'.toNat) := by
  fun_induction digitValues cs with
  | case1 => exact absurd rfl hne
  | case2 c => rw [decimalValue?_of_isDigit (h c (by simp))]; rfl
  | case3 c cs ih => exact absurd (h '_' (by simp)) (by decide)
  | case4 c cs hsingle hunderscore ih =>
    have hcs : cs ≠ [] := by
      rintro rfl
      exact hsingle rfl
    obtain ⟨hc, hrest⟩ := List.forall_mem_cons.mp h
    rw [decimalValue?_of_isDigit hc, ih hcs hrest]
    rfl

theorem ofDigits_eq_ofDigitChars (cs : List Char) :
    ofDigits 10 (cs.map fun c => c.toNat - '0'.toNat) = Nat.ofDigitChars 10 cs 0 := by
  rw [ofDigits, List.foldl_map, Nat.ofDigitChars_eq_foldl]
  simp only [Nat.mul_comm]

theorem isDigit_of_mem_toDigits (h : c ∈ Nat.toDigits 10 n) : c.isDigit = true :=
  Nat.isDigit_of_mem_toDigits (by decide) (by decide) h

private theorem readNat?_toDigits (h : (Nat.toDigits 10 n).length ≤ 4300) :
    readNat? (Nat.toDigits 10 n) = some n := by
  have hlength : ((Nat.toDigits 10 n).map fun c => c.toNat - '0'.toNat).length ≤ 4300 := by
    rwa [List.length_map]
  rw [readNat?, digitValues_of_isDigit Nat.toDigits_ne_nil fun _ => isDigit_of_mem_toDigits]
  simp only [Option.bind_eq_bind, Option.bind_some]
  rw [if_pos hlength, ofDigits_eq_ofDigitChars, Nat.ofDigitChars_ten_toDigits]

private theorem isMargin_eq_false (h : c.isDigit = true ∨ c = '-') : isMargin c = false := by
  rcases h with h | rfl
  · simp only [Char.isDigit, Bool.and_eq_true, decide_eq_true_eq, ge_iff_le,
      UInt32.le_iff_toNat_le] at h
    have hrange : 0x30 ≤ c.toNat ∧ c.toNat ≤ 0x39 := h
    simp [isMargin, isBlankChar, isBlankCode]
    omega
  · decide

private theorem readInt?_of_no_margin {s : String} (h : ∀ c ∈ s.toList, isMargin c = false) :
    readInt? s = readSigned? s.toList := by
  have hdrop : ∀ cs : List Char, (∀ c ∈ cs, isMargin c = false) → cs.dropWhile isMargin = cs := by
    rintro (_ | ⟨c, cs⟩) hcs
    · rfl
    · exact List.dropWhile_cons_of_neg (by simp [hcs c])
  rw [readInt?, hdrop _ h, hdrop _ (by simpa using h), List.reverse_reverse]

private theorem readSigned?_toDigits (h : (Nat.toDigits 10 n).length ≤ 4300) :
    readSigned? (Nat.toDigits 10 n) = some n := by
  have hdigit : ∀ c ∈ Nat.toDigits 10 n, c.isDigit = true := fun _ => isDigit_of_mem_toDigits
  rw [readSigned?.eq_3]
  · rw [readNat?_toDigits h]
    rfl
  · rintro cs hcs
    exact absurd (hdigit '-' (by simp [hcs])) (by decide)
  · rintro cs hcs
    exact absurd (hdigit '+' (by simp [hcs])) (by decide)

theorem readInt?_toString {n : Int} (h : Short n) : readInt? (toString n) = some n := by
  cases n with
  | ofNat n =>
    have hchars : (toString (Int.ofNat n)).toList = Nat.toDigits 10 n := Nat.toList_repr
    rw [readInt?_of_no_margin, hchars]
    · exact readSigned?_toDigits h
    · rw [hchars]
      exact fun c hc => isMargin_eq_false (.inl (isDigit_of_mem_toDigits hc))
  | negSucc n =>
    have hchars : (toString (Int.negSucc n)).toList = '-' :: Nat.toDigits 10 (n + 1) := by
      show ("-" ++ Nat.repr (n + 1)).toList = _
      rw [String.toList_append, Nat.toList_repr]
      rfl
    rw [readInt?_of_no_margin, hchars]
    · have hsucc : (Nat.toDigits 10 (n + 1)).length ≤ 4300 := h
      rw [readSigned?, readNat?_toDigits hsucc]
      rfl
    · rw [hchars]
      refine List.forall_mem_cons.mpr ⟨isMargin_eq_false (.inr rfl), fun c hc => ?_⟩
      exact isMargin_eq_false (.inl (isDigit_of_mem_toDigits hc))

/-! ## Digits of other scripts -/

private theorem exists_zero_of_decimalValueIn {zeros : List Nat} {code value : Nat}
    (h : decimalValueIn zeros code = some value) : ∃ z ∈ zeros, code = z + value := by
  induction zeros with
  | nil => simp [decimalValueIn] at h
  | cons z zeros ih =>
    rw [decimalValueIn] at h
    by_cases hrange : z ≤ code ∧ code < z + 10
    · have hvalue : code - z = value := by simpa [hrange] using h
      exact ⟨z, by simp, by omega⟩
    · have hrest : decimalValueIn zeros code = some value := by simpa [hrange] using h
      obtain ⟨found, hfound, hcode⟩ := ih hrest
      exact ⟨found, List.mem_cons_of_mem z hfound, hcode⟩

private theorem containsFrom_congr {bounds : List Nat} {code other : Nat}
    (h : ∀ b ∈ bounds, code < b ↔ other < b) :
    CodePointSet.containsFrom bounds code = CodePointSet.containsFrom bounds other := by
  induction bounds with
  | nil => rfl
  | cons b bounds ih =>
    obtain ⟨hb, hrest⟩ := List.forall_mem_cons.mp h
    simp only [CodePointSet.containsFrom, hb, ih hrest]

/-- The wider set of characters holds the decimal digits: it holds all zeros, and has no bound within
the nine code points after one. -/
theorem isDigitLike_of_decimalValue? {value : Nat} (h : decimalValue? c = some value) :
    isDigitLike c = true := by
  have hzeros : ∀ z ∈ decimalZeros, digitLike.contains z = true := by
    decide +kernel
  have hruns : ∀ z ∈ decimalZeros, ∀ b ∈ digitLike.bounds, b ≤ z ∨ z + 10 ≤ b := by
    decide +kernel
  obtain ⟨z, hz, hcode⟩ := exists_zero_of_decimalValueIn h
  have hvalue : value < 10 := decimalValueIn_lt h
  rw [isDigitLike, hcode, ← hzeros z hz]
  apply containsFrom_congr
  intro b hb
  have hrun := hruns z hz b hb
  omega

private theorem isMargin_of_isDigitLike (h : isDigitLike c = true) : isMargin c = false := by
  have hdigits : ∀ code ∈ List.range' 0x9 5 ++ List.range' 0x1c 5 ++ [0x85, 0xa0, 0x1680] ++
      List.range' 0x2000 11 ++ [0x2028, 0x2029, 0x202f, 0x205f, 0x3000],
      digitLike.contains code = false := by
    decide +kernel
  by_cases hblank : isBlankCode c.toNat = true
  · have hnot : isDigitLike c = false := by
      apply hdigits c.toNat
      simp only [isBlankCode, Bool.or_eq_true, Bool.and_eq_true, decide_eq_true_eq,
        beq_iff_eq] at hblank
      simp only [List.mem_append, List.mem_range'_1, List.mem_cons, List.not_mem_nil]
      omega
    rw [hnot] at h
    cases h
  · simp [isMargin, isBlankChar, hblank]

theorem digitValues_eq_mapM (hne : cs ≠ []) (h : '_' ∉ cs) :
    digitValues cs = cs.mapM decimalValue? := by
  fun_induction digitValues cs with
  | case1 => exact absurd rfl hne
  | case2 c => cases hc : decimalValue? c <;> simp [hc]
  | case3 c cs ih => exact absurd (by simp) h
  | case4 c cs hsingle hunderscore ih =>
    have hcs : cs ≠ [] := by
      intro hnil
      exact hsingle hnil
    rw [ih hcs fun hmem => h (List.mem_cons_of_mem c hmem), List.mapM_cons]

theorem readInt?_of_isDigitLike {s : String} (h : ∀ c ∈ s.toList, isDigitLike c = true) :
    readInt? s = (readNat? s.toList).map Int.ofNat := by
  rw [readInt?_of_no_margin fun c hc => isMargin_of_isDigitLike (h c hc), readSigned?.eq_3]
  · intro cs hcs
    exact absurd (h '-' (by simp [hcs])) (by decide +kernel)
  · intro cs hcs
    exact absurd (h '+' (by simp [hcs])) (by decide +kernel)

end GeneticRepair.Number
