import GeneticRepair.CommandLine.Execution
import GeneticRepair.Proofs.Number.Digits
import Mathlib.Data.List.Forall2

/-!
# Names of log files

The default log file gets a number above all those in use, so its name is new. None is chosen just
if there is a log file that bars all others: its suffix looks like a number, but either it is none,
or it has too many digits, or its successor has.
-/

namespace GeneticRepair.CommandLine

open GeneticRepair.Text GeneticRepair.Number

/-! ## Decimal numbers -/

/-- The number that decimal digits, of any scripts, stand for. -/
def decimal? (s : String) : Option Nat :=
  if s.isEmpty then none else (s.toList.mapM decimalValue?).map (ofDigits 10)

/-- The log file has a suffix that looks like a number. -/
def Numbered (log : String) : Prop :=
  isLogName log = true ∧ isDigitLikeText (lastSuffix log) = true

/-- The number can be read, and its successor can be written. -/
def Continued (s : String) : Prop :=
  ∃ m, decimal? s = some m ∧ s.length ≤ 4300 ∧ m + 1 < Nat.pow 10 4300

/-- There is a log file whose suffix looks like a number, but has no successor. -/
def Barred (names : List String) : Prop :=
  ∃ log ∈ names, Numbered log ∧ ¬ Continued (lastSuffix log)

/-! ## Reading all of a list -/

variable {α β : Type} {f : α → Option β} {as : List α} {bs : List β}

private theorem mapM_eq_some_iff :
    as.mapM f = some bs ↔ List.Forall₂ (fun a b => f a = some b) as bs := by
  induction as generalizing bs with
  | nil => simp [eq_comm]
  | cons a as ih =>
    rw [List.mapM_cons, List.forall₂_cons_left_iff]
    cases f a <;> cases has : as.mapM f <;> simp [← ih, eq_comm, has]

private theorem mem_iff_of_mapM (h : as.mapM f = some bs) (b : β) :
    b ∈ bs ↔ ∃ a ∈ as, f a = some b := by
  have hpairs : List.Forall₂ (fun a b => f a = some b) as bs := mapM_eq_some_iff.mp h
  clear h
  induction hpairs with
  | nil => simp
  | cons hab _ ih => simp [ih, hab, eq_comm]

private theorem mapM_eq_none_iff : as.mapM f = none ↔ ∃ a ∈ as, f a = none := by
  induction as with
  | nil => simp
  | cons a as ih =>
    rw [List.mapM_cons]
    cases ha : f a <;> cases has : as.mapM f <;> simp_all

/-! ## What looks like a number -/

variable {s log name : String} {names : List String} {m : Nat}

private theorem isDigitLikeText_iff :
    isDigitLikeText s = true ↔ s.toList ≠ [] ∧ ∀ c ∈ s.toList, isDigitLike c = true := by
  simp [isDigitLikeText]

private theorem decimal?_eq_some_iff :
    decimal? s = some m ↔ s.toList ≠ [] ∧
      ∃ ds, s.toList.mapM decimalValue? = some ds ∧ ofDigits 10 ds = m := by
  rw [decimal?]
  by_cases h : s = "" <;> simp [h]

private theorem isDigitLikeText_of_decimal? (h : decimal? s = some m) :
    isDigitLikeText s = true := by
  obtain ⟨hne, ds, hds, -⟩ := decimal?_eq_some_iff.mp h
  have hall : ∀ c ∈ s.toList, isDigitLike c = true := by
    intro c hc
    by_contra hnot
    have hnone : decimalValue? c = none := by
      cases hvalue : decimalValue? c with
      | none => rfl
      | some value => exact absurd (isDigitLike_of_decimalValue? hvalue) hnot
    rw [mapM_eq_none_iff.mpr ⟨c, hc, hnone⟩] at hds
    cases hds
  exact isDigitLikeText_iff.mpr ⟨hne, hall⟩

private theorem decimal?_toString (n : Nat) : decimal? (toString n) = some n := by
  have hchars : (toString n).toList = Nat.toDigits 10 n := Nat.toList_repr
  have hdigits : ∀ c ∈ Nat.toDigits 10 n, c.isDigit = true := fun _ => isDigit_of_mem_toDigits
  have hunderscore : '_' ∉ Nat.toDigits 10 n := fun h => absurd (hdigits '_' h) (by decide)
  rw [decimal?_eq_some_iff, hchars]
  refine ⟨Nat.toDigits_ne_nil, (Nat.toDigits 10 n).map fun c => c.toNat - '0'.toNat, ?_, ?_⟩
  · rw [← digitValues_eq_mapM Nat.toDigits_ne_nil hunderscore]
    exact digitValues_of_isDigit Nat.toDigits_ne_nil hdigits
  · rw [ofDigits_eq_ofDigitChars, Nat.ofDigitChars_ten_toDigits]

/-- What looks like a number is read just if it is a decimal number that is not too long. -/
theorem readInt?_of_isDigitLikeText (h : isDigitLikeText s = true) :
    readInt? s = (decimal? s).bind fun m => if s.length ≤ 4300 then some (m : Int) else none := by
  obtain ⟨hne, hall⟩ := isDigitLikeText_iff.mp h
  have hunderscore : '_' ∉ s.toList := fun hmem => absurd (hall '_' hmem) (by decide +kernel)
  have hempty : s.isEmpty = false := by simpa using hne
  rw [readInt?_of_isDigitLike hall, readNat?, digitValues_eq_mapM hne hunderscore, decimal?, hempty]
  cases hds : s.toList.mapM decimalValue? with
  | none => rfl
  | some ds =>
    have hlength : ds.length = s.length := by
      rw [← (mapM_eq_some_iff.mp hds).length_eq, String.length_toList]
    by_cases hshort : s.length ≤ 4300 <;> simp [hlength, hshort]

private theorem decimal?_of_readInt? {n : Int} (h : isDigitLikeText s = true)
    (hread : readInt? s = some n) :
    ∃ m : Nat, decimal? s = some m ∧ n = m := by
  rw [readInt?_of_isDigitLikeText h] at hread
  cases hm : decimal? s with
  | none => simp [hm] at hread
  | some m =>
    by_cases hshort : s.length ≤ 4300
    · exact ⟨m, rfl, by simpa [hm, hshort, eq_comm] using hread⟩
    · simp [hm, hshort] at hread

private theorem continued_iff (h : isDigitLikeText s = true) :
    Continued s ↔ ∃ n : Int, readInt? s = some n ∧ n + 1 < Nat.pow 10 4300 := by
  rw [Continued]
  generalize Nat.pow 10 4300 = limit
  rw [readInt?_of_isDigitLikeText h]
  cases hm : decimal? s with
  | none => simp
  | some m =>
    by_cases hshort : s.length ≤ 4300
    · simp [hshort]
      omega
    · simp [hshort]

/-! ## Numbers in use -/

private theorem exists_suffix_iff (names : List String) (value : Option Int) :
    (∃ s ∈ ((names.filter isLogName).map lastSuffix).filter isDigitLikeText, readInt? s = value) ↔
      ∃ log ∈ names, Numbered log ∧ readInt? (lastSuffix log) = value := by
  simp only [List.mem_filter, List.mem_map]
  constructor
  · rintro ⟨_, ⟨⟨log, ⟨hmem, hlog⟩, rfl⟩, hlike⟩, hread⟩
    exact ⟨log, hmem, ⟨hlog, hlike⟩, hread⟩
  · rintro ⟨log, hmem, ⟨hlog, hlike⟩, hread⟩
    exact ⟨lastSuffix log, ⟨⟨log, ⟨hmem, hlog⟩, rfl⟩, hlike⟩, hread⟩

private theorem mem_logNumbers {numbers : List Int} (h : logNumbers names = some numbers)
    (n : Int) :
    n ∈ numbers ↔ ∃ log ∈ names, Numbered log ∧ readInt? (lastSuffix log) = some n := by
  rw [← exists_suffix_iff]
  exact mem_iff_of_mapM h n

private theorem logNumbers_eq_none_iff :
    logNumbers names = none ↔ ∃ log ∈ names, Numbered log ∧ readInt? (lastSuffix log) = none := by
  rw [← exists_suffix_iff]
  exact mapM_eq_none_iff

private theorem exists_number {numbers : List Int} (h : logNumbers names = some numbers)
    (hmem : log ∈ names)
    (hlog : Numbered log) : ∃ n ∈ numbers, readInt? (lastSuffix log) = some n := by
  cases hread : readInt? (lastSuffix log) with
  | none =>
    rw [logNumbers_eq_none_iff.mpr ⟨log, hmem, hlog, hread⟩] at h
    cases h
  | some n => exact ⟨n, (mem_logNumbers h n).mpr ⟨log, hmem, hlog, hread⟩, rfl⟩

/-- The next number is zero, or the successor of the greatest one in use. -/
theorem nextNumber_lt_iff (numbers : List Int) (bound : Int) :
    nextNumber numbers < bound ↔
      (numbers = [] → 0 < bound) ∧ ∀ n ∈ numbers, n + 1 < bound := by
  rw [nextNumber]
  cases h : numbers.max? with
  | none => simp [List.max?_eq_none_iff.mp h]
  | some top =>
    obtain ⟨hmem, hle⟩ := List.max?_eq_some_iff.mp h
    have hne : numbers ≠ [] := List.ne_nil_of_mem hmem
    change top + 1 < bound ↔ _
    constructor
    · intro hlt
      refine ⟨fun hnil => absurd hnil hne, fun n hn => ?_⟩
      have hn' : n ≤ top := hle n hn
      omega
    · intro hall
      exact hall.2 top hmem

/-! ## The name that is chosen -/

private theorem nextLog_eq_some_iff :
    nextLog names = some name ↔ ∃ numbers, logNumbers names = some numbers ∧
      nextNumber numbers < Nat.pow 10 4300 ∧ "oolong.log." ++ toString (nextNumber numbers) = name := by
  rw [nextLog]
  generalize Nat.pow 10 4300 = limit
  cases logNumbers names with
  | none => simp
  | some numbers => by_cases h : nextNumber numbers < limit <;> simp [h]

private theorem nextLog_eq_none_iff : nextLog names = none ↔ Barred names := by
  constructor
  · intro hnone
    cases hnumbers : logNumbers names with
    | none =>
      obtain ⟨log, hmem, hlog, hread⟩ := logNumbers_eq_none_iff.mp hnumbers
      refine ⟨log, hmem, hlog, fun hcontinued => ?_⟩
      obtain ⟨n, hn, -⟩ := (continued_iff hlog.2).mp hcontinued
      cases hread.symm.trans hn
    | some numbers =>
      have hlimit : ¬ nextNumber numbers < Nat.pow 10 4300 := by
        intro hlt
        have hsome := nextLog_eq_some_iff.mpr ⟨numbers, hnumbers, hlt, rfl⟩
        cases hnone.symm.trans hsome
      have hpowers : ∀ k, 0 < Nat.pow 10 k := fun k => Nat.pow_pos (by decide)
      have hpos : (0 : Int) < Nat.pow 10 4300 := Int.natCast_pos.mpr (hpowers 4300)
      have hlast : ∃ n ∈ numbers, ¬ n + 1 < Nat.pow 10 4300 := by
        by_contra hall
        refine hlimit ((nextNumber_lt_iff numbers _).mpr ⟨fun _ => hpos, fun n hn => ?_⟩)
        by_contra hge
        exact hall ⟨n, hn, hge⟩
      obtain ⟨n, hn, hge⟩ := hlast
      obtain ⟨log, hmem, hlog, hread⟩ := (mem_logNumbers hnumbers n).mp hn
      refine ⟨log, hmem, hlog, fun hcontinued => ?_⟩
      obtain ⟨n', hn', hlt⟩ := (continued_iff hlog.2).mp hcontinued
      cases hread.symm.trans hn'
      exact hge hlt
  · rintro ⟨log, hmem, hlog, hbars⟩
    cases hname : nextLog names with
    | none => rfl
    | some name =>
      obtain ⟨numbers, hnumbers, hlimit, -⟩ := nextLog_eq_some_iff.mp hname
      obtain ⟨n, hn, hread⟩ := exists_number hnumbers hmem hlog
      have hlt : n + 1 < Nat.pow 10 4300 := ((nextNumber_lt_iff numbers _).mp hlimit).2 n hn
      exact absurd ((continued_iff hlog.2).mpr ⟨n, hread, hlt⟩) hbars

private theorem lastSuffix_of_decimal? (h : decimal? s = some m) :
    lastSuffix ("oolong.log." ++ s) = s := by
  have hdot : ∀ c ∈ s.toList.reverse, (c != '.') = true := by
    intro c hc
    have hlike : isDigitLike c = true :=
      (isDigitLikeText_iff.mp (isDigitLikeText_of_decimal? h)).2 c (List.mem_reverse.mp hc)
    by_contra heq
    have hc : c = '.' := by simpa using heq
    rw [hc] at hlike
    exact absurd hlike (by decide +kernel)
  rw [lastSuffix, String.toList_append, List.reverse_append, List.takeWhile_append_of_pos hdot]
  simp

private theorem isLogName_append (s : String) : isLogName ("oolong.log." ++ s) = true := by
  rw [isLogName, String.startsWith_string_iff, String.toList_append]
  exact List.prefix_append _ _

private theorem lt_nextNumber {numbers : List Int} {n : Int} (h : n ∈ numbers) :
    n < nextNumber numbers := by
  have hself : nextNumber numbers < nextNumber numbers + 1 := by omega
  have hlt := ((nextNumber_lt_iff numbers _).mp hself).2 n h
  omega

private theorem exists_nat_nextNumber {numbers : List Int} (h : logNumbers names = some numbers) :
    ∃ n : Nat, nextNumber numbers = n := by
  apply Int.eq_ofNat_of_zero_le
  by_contra hneg
  have hlt : nextNumber numbers < 0 := by omega
  obtain ⟨hnil, hall⟩ := (nextNumber_lt_iff numbers 0).mp hlt
  cases numbers with
  | nil => exact absurd (hnil rfl) (by decide)
  | cons n rest =>
    obtain ⟨log, -, hlog, hread⟩ := (mem_logNumbers h n).mp (by simp)
    obtain ⟨m, -, hm⟩ := decimal?_of_readInt? hlog.2 hread
    have hbelow : n + 1 < 0 := hall n (by simp)
    omega

/-- The default log file is new, unless it is barred: its number is above that of each log file. -/
theorem nextLog_new (names : List String) :
    (nextLog names = none ↔ Barred names) ∧
      ∀ name, nextLog names = some name → ∃ n : Nat, name = "oolong.log." ++ toString n ∧
        name ∉ names ∧ ∀ s m, "oolong.log." ++ s ∈ names → decimal? s = some m → m < n := by
  refine ⟨nextLog_eq_none_iff, fun name hname => ?_⟩
  obtain ⟨numbers, hnumbers, -, hchosen⟩ := nextLog_eq_some_iff.mp hname
  obtain ⟨n, hn⟩ := exists_nat_nextNumber hnumbers
  have habove : ∀ s m, "oolong.log." ++ s ∈ names → decimal? s = some m → m < n := by
    intro s m hmem hm
    have hsuffix : lastSuffix ("oolong.log." ++ s) = s := lastSuffix_of_decimal? hm
    have hlike : isDigitLikeText s = true := isDigitLikeText_of_decimal? hm
    have hlog : Numbered ("oolong.log." ++ s) := ⟨isLogName_append s, by rwa [hsuffix]⟩
    obtain ⟨taken, htaken, hread⟩ := exists_number hnumbers hmem hlog
    rw [hsuffix] at hread
    obtain ⟨m', hm', rfl⟩ := decimal?_of_readInt? hlike hread
    cases hm.symm.trans hm'
    have hlt : (m : Int) < nextNumber numbers := lt_nextNumber htaken
    omega
  have hchosen' : name = "oolong.log." ++ toString n := by
    rw [← hchosen, hn]
    rfl
  refine ⟨n, hchosen', ?_, habove⟩
  intro hmem
  rw [hchosen'] at hmem
  have hlt : n < n := habove (toString n) n hmem (decimal?_toString n)
  omega

/-- Digits of any script are read; other suffixes do not count. -/
theorem nextLog_eight :
    nextLog ["oolong.log.7", "oolong.log.٣", "oolong.log.x"] = some "oolong.log.8" ∧
      "oolong.log.8" ∉ ["oolong.log.7", "oolong.log.٣", "oolong.log.x"] := by
  have hnext : nextLog ["oolong.log.7", "oolong.log.٣", "oolong.log.x"] = some "oolong.log.8" := by
    decide +kernel
  obtain ⟨n, -, hnew, -⟩ := (nextLog_new ["oolong.log.7", "oolong.log.٣", "oolong.log.x"]).2 _ hnext
  exact ⟨hnext, hnew⟩

/-- A superscript looks like a number, but none can be read from it. -/
theorem nextLog_of_superscript : nextLog ["oolong.log.²"] = none := by
  decide +kernel

end GeneticRepair.CommandLine
