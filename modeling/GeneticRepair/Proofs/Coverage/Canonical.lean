import GeneticRepair.Proofs.Coverage.Localization
import GeneticRepair.Document.Key
import GeneticRepair.Proofs.Number.Comparison
import GeneticRepair.Proofs.Number.Digits
import GeneticRepair.Proofs.Random.Overflow
import Mathlib.Data.List.Sort

/-!
# Localizations in canonical form

A localization depends on the scores of the lines alone, not on how they are given: its lines ascend,
and all of them are suspicious. So localizations with the same scores are the same, parts of one are
told by the lines that are kept, and one that is written can be read back.
-/

namespace GeneticRepair

open Entries (AtLast)
open Number (Short)

/-! ## Positive scores -/

namespace Quantity

variable {q r : Quantity}

private theorem same_comm (q r : Quantity) : Scalar.same q r = Scalar.same r q := by
  change Number.same q.value r.value = Number.same r.value q.value
  rw [Number.same, Number.same, Number.compare?_swap q.value]
  rcases Number.compare? q.value r.value with _ | (_ | _ | _) <;> rfl

private theorem same_origin : Scalar.same (Scalar.origin : Quantity) Scalar.origin = true := by
  decide +kernel

private theorem not_negative (h : Localization.isSuspicious q = true) :
    Scalar.less q Scalar.origin = false :=
  Number.not_less_of_less h

private theorem not_same_origin (h : Localization.isSuspicious q = true) :
    Scalar.same q Scalar.origin = false :=
  (Number.not_same_of_less h).2

private theorem same_self (h : Localization.isSuspicious q = true) : Scalar.same q q = true :=
  Number.same_self_of_less h

end Quantity

namespace Localization

variable {l m : Localization Quantity} {es fs : List (Int × Quantity)} {line : Int}
  {score : Quantity}

/-- The lines ascend, and all of them are suspicious. -/
structure Canonical (l : Localization Quantity) : Prop where
  ascending : l.lines.Pairwise (· < ·)
  pruned : l.Pruned

/-! ## Making localizations -/

private theorem ofScores_eq_error_iff : (∃ e, ofScores es = .error e) ↔
    ∃ line score, AtLast es line score ∧ Scalar.less score Scalar.origin = true := by
  have hany : ((Entries.ofList es).any fun e => Scalar.less e.2 Scalar.origin) = true ↔
      ∃ line score, AtLast es line score ∧ Scalar.less score Scalar.origin = true := by
    simp only [List.any_eq_true, Prod.exists, Entries.mem_ofList]
  rw [← hany]
  simp only [ofScores]
  split
  · rename_i hnegative
    exact iff_of_true ⟨_, rfl⟩ hnegative
  · rename_i hnonneg
    refine iff_of_false ?_ hnonneg
    rintro ⟨e, he⟩
    cases he

private theorem mem_scores_iff (h : ofScores es = .ok l) :
    (line, score) ∈ l.scores ↔ AtLast es line score ∧ isSuspicious score = true := by
  simp only [ofScores] at h
  split at h
  · cases h
  · obtain rfl := Except.ok.inj h
    have hnodup := (Entries.nodup_keys_ofList es).sublist
      ((List.filter_sublist (p := fun e => isSuspicious e.2)).map Prod.fst)
    rw [Sorted.mem_ofEntries, Entries.atLast_iff_mem hnodup, List.mem_filter, Entries.mem_ofList]

private theorem canonical_ofScores (h : ofScores es = .ok l) : l.Canonical := by
  refine ⟨?_, pruned_ofScores h⟩
  simp only [ofScores] at h
  split at h
  · cases h
  · obtain rfl := Except.ok.inj h
    exact Sorted.pairwise_keys_ofEntries _

private theorem ofScores_perm (h : es.Perm fs) (hnodup : (es.map Prod.fst).Nodup) :
    ofScores es = ofScores fs := by
  have hnodup' : (fs.map Prod.fst).Nodup := (h.map Prod.fst).nodup_iff.mp hnodup
  have hentries := Sorted.ofEntries_perm (h.filter fun e => isSuspicious e.2)
    (hnodup.sublist (List.filter_sublist.map Prod.fst))
  simp only [ofScores, Entries.ofList_eq_self hnodup, Entries.ofList_eq_self hnodup', h.any_eq,
    hentries]

namespace Canonical

private theorem nodup (hl : l.Canonical) : (l.scores.map Prod.fst).Nodup :=
  hl.ascending.imp ne_of_lt

private theorem suspicious (hl : l.Canonical) (h : (line, score) ∈ l.scores) :
    isSuspicious score = true :=
  hl.pruned score (List.mem_map_of_mem h)

private theorem ofScores_scores (hl : l.Canonical) : ofScores l.scores = .ok l := by
  have hnonneg : ¬ (l.scores.any fun e => Scalar.less e.2 Scalar.origin) = true := by
    rw [List.any_eq_true]
    rintro ⟨⟨line, score⟩, hmem, hnegative⟩
    rw [Quantity.not_negative (hl.suspicious hmem)] at hnegative
    cases hnegative
  have hkept : l.scores.filter (fun e => isSuspicious e.2) = l.scores :=
    List.filter_eq_self.mpr fun e he => hl.suspicious he
  simp only [ofScores, Entries.ofList_eq_self hl.nodup]
  rw [if_neg hnonneg, hkept, Sorted.ofEntries_eq_self hl.ascending]
  rfl

private theorem filter (hl : l.Canonical) (keep : Int → Bool) : (l.filter keep).Canonical where
  ascending := hl.ascending.sublist (List.filter_sublist.map Prod.fst)
  pruned score hscore := by
    obtain ⟨e, he, rfl⟩ := List.mem_map.mp hscore
    exact hl.suspicious (List.mem_filter.mp he).1

end Canonical

/-! ## The same scores -/

/-- An entry says the same as another one. -/
def Agree (e f : Int × Quantity) : Prop :=
  e.1 = f.1 ∧ Scalar.same e.2 f.2 = true

private theorem same_eq_true_iff : l.same m = true ↔ List.Forall₂ Agree l.scores m.scores := by
  simp only [same, List.forall₂_iff_zip, Bool.and_eq_true, beq_iff_eq, List.all_eq_true,
    Prod.forall, Agree]

private theorem same_scores_of_agree (h : List.Forall₂ Agree es fs) (line : Int) :
    Scalar.same ((es.lookup line).getD Scalar.origin) ((fs.lookup line).getD Scalar.origin) =
      true := by
  induction h with
  | nil => exact Quantity.same_origin
  | @cons e f es fs hagree _ ih =>
    obtain ⟨k, v⟩ := e
    obtain ⟨k', v'⟩ := f
    obtain ⟨rfl, hsame⟩ : k = k' ∧ Scalar.same v v' = true := hagree
    by_cases hline : line = k
    · rw [hline, List.lookup_cons_self, List.lookup_cons_self]
      exact hsame
    · rw [List.lookup_cons, List.lookup_cons, beq_false_of_ne hline]
      exact ih

private theorem fingerprint_of_agree (h : List.Forall₂ Agree es fs) :
    (⟨es⟩ : Localization Quantity).fingerprint = (⟨fs⟩ : Localization Quantity).fingerprint := by
  induction h with
  | nil => rfl
  | @cons e f es fs hagree _ ih =>
    obtain ⟨k, v⟩ := e
    obtain ⟨k', v'⟩ := f
    obtain ⟨rfl, hsame⟩ : k = k' ∧ Scalar.same v v' = true := hagree
    have hscore : v.fingerprint = v'.fingerprint := Number.fingerprint_of_same hsame
    change (keyFingerprint k, v.fingerprint) :: (⟨es⟩ : Localization Quantity).fingerprint =
      (keyFingerprint k, v'.fingerprint) :: (⟨fs⟩ : Localization Quantity).fingerprint
    rw [hscore, ih]

namespace Canonical

private theorem score_eq (hl : l.Canonical) (h : (line, score) ∈ l.scores) :
    l.score line = score := by
  rw [Localization.score, (Entries.lookup_eq_some_iff_mem hl.nodup).mpr h]
  rfl

private theorem mem_lines_of_same (hl : l.Canonical)
    (h : Scalar.same (l.score line) (m.score line) = true) (hline : line ∈ l.lines) :
    line ∈ m.lines := by
  obtain ⟨⟨line, score⟩, hentry, rfl⟩ := List.mem_map.mp hline
  rw [hl.score_eq hentry] at h
  by_contra hmissing
  have hzero : m.score line = Scalar.origin := by
    rw [Localization.score, List.lookup_eq_none_iff.mpr ?_]
    · rfl
    · rintro ⟨other, score'⟩ hmem
      rw [bne_iff_ne]
      rintro rfl
      exact hmissing (List.mem_map.mpr ⟨_, hmem, rfl⟩)
  rw [hzero, Quantity.not_same_origin (hl.suspicious hentry)] at h
  cases h

private theorem same_iff (hl : l.Canonical) (hm : m.Canonical) :
    l.same m = true ↔ ∀ line, Scalar.same (l.score line) (m.score line) = true := by
  rw [same_eq_true_iff]
  refine ⟨same_scores_of_agree, fun h => ?_⟩
  have hlines : l.lines = m.lines := by
    refine hl.ascending.eq_of_mem_iff hm.ascending fun line => ⟨fun hline => ?_, fun hline => ?_⟩
    · exact hl.mem_lines_of_same (h line) hline
    · exact hm.mem_lines_of_same (Quantity.same_comm _ _ ▸ h line) hline
  have hlength : l.scores.length = m.scores.length := by
    have hlength := congrArg List.length hlines
    rwa [lines, lines, List.length_map, List.length_map] at hlength
  refine List.forall₂_iff_get.mpr ⟨hlength, fun i hi hi' => ?_⟩
  have hkey : (l.scores.get ⟨i, hi⟩).1 = (m.scores.get ⟨i, hi'⟩).1 := by
    have hkey := congrArg (·[i]?) hlines
    simpa [lines, hi, hi'] using hkey
  refine ⟨hkey, ?_⟩
  have hsame := h (l.scores.get ⟨i, hi⟩).1
  rwa [hl.score_eq (List.get_mem l.scores ⟨i, hi⟩), hkey,
    hm.score_eq (List.get_mem m.scores ⟨i, hi'⟩)] at hsame

private theorem same_self (hl : l.Canonical) : l.same l = true := by
  rw [same_eq_true_iff, List.forall₂_same]
  exact fun e he => ⟨rfl, Quantity.same_self (hl.suspicious he)⟩

end Canonical

/-! ## Parts -/

private theorem filter_filter (l : Localization Quantity) (keep keep' : Int → Bool) :
    (l.filter keep).filter keep' = l.filter fun line => keep line && keep' line := by
  simp only [filter, List.filter_filter, Bool.and_comm]

private theorem restrict_restrict (l : Localization Quantity) (S T : List Int) :
    (l.restrictToLines S).restrictToLines T = l.restrictToLines (S ∩ T) := by
  have hboth : ∀ line, (S.contains line && T.contains line) = (S ∩ T).contains line := by
    intro line
    simp
  simp only [restrictToLines, filter_filter, hboth]

private theorem restrict_comm (l : Localization Quantity) (S T : List Int) :
    (l.restrictToLines S).restrictToLines T = (l.restrictToLines T).restrictToLines S := by
  simp only [restrictToLines, filter_filter, Bool.and_comm]

private theorem restrict_append_exclude (l : Localization Quantity) (S : List Int) :
    ((l.restrictToLines S).scores ++ (l.excludeLines S).scores).Perm l.scores :=
  List.filter_append_perm (fun e : Int × Quantity => S.contains e.1) l.scores

private theorem disjoint_restrict_exclude (l : Localization Quantity) (S : List Int) :
    (l.restrictToLines S).lines.Disjoint (l.excludeLines S).lines := by
  intro line hrestricted hexcluded
  obtain ⟨e, he, rfl⟩ := List.mem_map.mp hrestricted
  obtain ⟨f, hf, heq⟩ := List.mem_map.mp hexcluded
  have hin : S.contains e.1 = true := (List.mem_filter.mp he).2
  have hout : (!S.contains f.1) = true := (List.mem_filter.mp hf).2
  rw [heq, hin] at hout
  cases hout

/-! ## Documents -/

def keyed (l : Localization Quantity) : Localization Quantity Key :=
  ⟨l.scores.map (Prod.map Key.ofInt id)⟩

private theorem ofScores_keyed (es : List (Int × Quantity)) :
    ofScores (es.map (Prod.map Key.ofInt id)) = (ofScores es).map keyed := by
  have hknown : Entries.ofList (es.map (Prod.map Key.ofInt id)) =
      (Entries.ofList es).map (Prod.map Key.ofInt id) := Entries.ofList_map Key.ofInt_beq es
  simp only [ofScores, hknown, List.any_map, List.filter_map, Function.comp_def, Prod.map_snd, id,
    Sorted.ofEntries_map fun _ _ => Key.ofInt_lt]
  split <;> rfl

def written (l : Localization Quantity) : List (String × Value) :=
  l.scores.map fun e => (toString e.1, .ofQuantity e.2)

private theorem holdsLongInteger_int (n : Int) :
    (Value.int n).holdsLongInteger = true ↔ ¬ Short n := by
  rw [Value.holdsLongInteger, decide_eq_true_iff, Number.short_iff, not_lt]

private theorem writtenText_of_short {line : Int} (h : Short line) :
    writtenText line = .ok (toString line) := by
  have hlong : ¬ (ToValue.toValue line).holdsLongInteger = true :=
    fun hlong => (holdsLongInteger_int line).mp hlong h
  rw [writtenText, if_neg hlong]
  rfl

private theorem writtenText_of_long {line : Int} (h : ¬ Short line) :
    writtenText line = .error .tooManyDigits := by
  have hlong : (ToValue.toValue line).holdsLongInteger = true := (holdsLongInteger_int line).mpr h
  rw [writtenText, if_pos hlong]
  rfl

private theorem toValue_eq (l : Localization Quantity) : l.toValue =
    l.scores.mapM (fun e => return (← writtenText e.1, .ofQuantity e.2)) >>=
      fun entries => .ok (.map entries) :=
  rfl

private theorem toValue_of_short (h : ∀ line ∈ l.lines, Short line) :
    l.toValue = .ok (.map l.written) := by
  rw [toValue_eq, mapM_eq_ok fun e he => ?_]
  · rfl
  · rw [writtenText_of_short (h e.1 (List.mem_map_of_mem he))]
    rfl

private theorem toValue_of_long (h : ∃ line ∈ l.lines, ¬ Short line) :
    l.toValue = .error .tooManyDigits := by
  obtain ⟨line, hline, hlong⟩ := h
  obtain ⟨e, he, rfl⟩ := List.mem_map.mp hline
  rw [toValue_eq, mapM_eq_error (fun f _ => ?_) ⟨e, he, ?_⟩]
  · rfl
  · rw [writtenText_of_long hlong]
    rfl
  · rcases em (Short f.1) with hshort | hlong
    · exact .inl ⟨_, by rw [writtenText_of_short hshort]; rfl⟩
    · exact .inr (by rw [writtenText_of_long hlong]; rfl)

private theorem scoreOfValue_ofQuantity (q : Quantity) : scoreOfValue (.ofQuantity q) = .ok q := by
  rcases q with (_ | _) | _ <;> rfl

private theorem checkScores_of_nonneg {es : List (Key × Quantity)}
    (h : ∀ e ∈ es, Scalar.less e.2 Scalar.origin = false) :
    checkScores (es.map (Prod.map id Value.ofQuantity)) = .ok es := by
  induction es with
  | nil => rfl
  | cons e es ih =>
    obtain ⟨he, hes⟩ := List.forall_mem_cons.mp h
    obtain ⟨line, score⟩ := e
    rw [List.map_cons, Prod.map_apply, checkScores, scoreOfValue_ofQuantity, ih hes]
    dsimp only [bind, Except.bind]
    rw [if_neg (by simp [he])]
    rfl

private theorem ofEntries_keyed (hl : l.Canonical) :
    ofEntries (l.keyed.scores.map (Prod.map id Value.ofQuantity)) = .ok l.keyed := by
  have hnonneg : ∀ e ∈ l.keyed.scores, Scalar.less e.2 Scalar.origin = false := by
    rw [keyed, List.forall_mem_map]
    exact fun e he => Quantity.not_negative (hl.suspicious he)
  have hsortable : Key.sortable (l.keyed.scores.map Prod.fst) = true := by
    have hkeys := Key.sortable_map_ofInt l.lines
    rw [lines, List.map_map] at hkeys
    rwa [keyed, List.map_map]
  have hscores : ofScores l.keyed.scores = .ok l.keyed := by
    rw [keyed, ofScores_keyed, hl.ofScores_scores]
    rfl
  simp only [ofEntries, checkScores_of_nonneg hnonneg, hsortable, hscores, bind, Except.bind]
  rfl

private theorem ofValue_written (hl : l.Canonical) (h : ∀ line ∈ l.lines, Short line) :
    ofValue (.map l.written) = .ok l.keyed := by
  have hentries : Entries.ofList (l.scores.map (Prod.map Key.ofInt Value.ofQuantity)) =
      l.keyed.scores.map (Prod.map id Value.ofQuantity) := by
    rw [Entries.ofList_map Key.ofInt_beq, Entries.ofList_eq_self hl.nodup, keyed, List.map_map]
    rfl
  rw [← ofEntries_keyed hl, ← hentries]
  simp only [ofValue, written, List.mapM_map]
  rw [mapM_eq_ok (g := Prod.map Key.ofInt Value.ofQuantity) fun e he => ?_]
  · rfl
  · rw [Function.comp_apply, Number.readInt?_toString (h e.1 (List.mem_map_of_mem he))]
    rfl

/-! ## Laws -/

/-- What holds of the localization that is made from some scores. -/
structure Lawful (es : List (Int × Quantity)) (l : Localization Quantity) : Prop where
  nonnegative : ∀ line score, AtLast es line score → Scalar.less score Scalar.origin = false
  ascending : l.lines.Pairwise (· < ·)
  /-- The entries are the positive scores. -/
  mem_scores : ∀ line score,
    (line, score) ∈ l.scores ↔ AtLast es line score ∧ isSuspicious score = true
  unordered : ∀ fs, fs.Perm es → (es.map Prod.fst).Nodup → ofScores fs = .ok l
  same_self : l.same l = true
  same_iff : ∀ fs m, ofScores fs = .ok m →
    (l.same m = true ↔ ∀ line, Scalar.same (l.score line) (m.score line) = true)
  fingerprint_eq : ∀ fs m, ofScores fs = .ok m → l.same m = true → l.fingerprint = m.fingerprint
  /-- Parts are localizations in their own right. -/
  rebuilt : ∀ keep, ofScores (l.filter keep).scores = .ok (l.filter keep)
  disjoint : ∀ S, (l.restrictToLines S).lines.Disjoint (l.excludeLines S).lines
  together : ∀ S, ((l.restrictToLines S).scores ++ (l.excludeLines S).scores).Perm l.scores
  restricted : ∀ S T, (l.restrictToLines S).restrictToLines T = l.restrictToLines (S ∩ T)
  commuting : ∀ S T,
    (l.restrictToLines S).restrictToLines T = (l.restrictToLines T).restrictToLines S
  /-- What is written is read back, unless a line is too long to be written. -/
  readBack : Meets (fun v => ofValue v = .ok l.keyed)
    (fun e => e = .tooManyDigits ∧ ∃ line ∈ l.lines, ¬ Short line) l.toValue
  /-- A draw gives one of the lines, unless integer scores are too large for floats. -/
  drawn : l.scores ≠ [] → ∀ {G : Type} [RandomSource G] (g : G), Meets (· ∈ l.lines)
    (fun e => ∃ a, Quantity.Overflows (l.scores.map Prod.snd) a ∧ e = .arithmetic a)
    (l.sample.run.run g).1

private theorem meets_sample {G : Type} [RandomSource G] (hne : l.scores ≠ []) (g : G) :
    Meets (· ∈ l.lines)
      (fun e => ∃ a, Quantity.Overflows (l.scores.map Prod.snd) a ∧ e = .arithmetic a)
      (l.sample.run.run g).1 := by
  obtain ⟨scores⟩ := l
  cases scores with
  | nil => exact absurd rfl hne
  | cons entry entries => exact (Random.ends_weightedChoice_quantity entry entries g trivial).1

private theorem Canonical.meets_readBack (hl : l.Canonical) :
    Meets (fun v => ofValue v = .ok l.keyed)
    (fun e => e = .tooManyDigits ∧ ∃ line ∈ l.lines, ¬ Short line) l.toValue := by
  rcases em (∀ line ∈ l.lines, Short line) with hshort | hlong
  · rw [toValue_of_short hshort]
    exact ofValue_written hl hshort
  · push Not at hlong
    rw [toValue_of_long hlong]
    exact ⟨rfl, hlong⟩

/-- Scores make a localization unless one of them is negative, and the localization is canonical. -/
theorem ofScores_lawful (es : List (Int × Quantity)) :
    Meets (Lawful es) (fun e => e = .negativeScore ∧
      ∃ line score, AtLast es line score ∧ Scalar.less score Scalar.origin = true)
      (ofScores es) := by
  cases h : ofScores es with
  | error e => exact ⟨rfl, ofScores_eq_error_iff.mp ⟨e, h⟩⟩
  | ok l =>
    have hl := canonical_ofScores h
    refine ⟨fun line score hlast => ?_, hl.ascending, fun _ _ => mem_scores_iff h,
      fun fs hperm hnodup => ?_, hl.same_self, fun fs m hm => hl.same_iff (canonical_ofScores hm),
      fun fs m _ hsame => fingerprint_of_agree (same_eq_true_iff.mp hsame),
      fun keep => (hl.filter keep).ofScores_scores, disjoint_restrict_exclude l,
      restrict_append_exclude l, restrict_restrict l, restrict_comm l, hl.meets_readBack,
      fun hne _ _ g => meets_sample hne g⟩
    · by_contra hnegative
      rw [Bool.not_eq_false] at hnegative
      obtain ⟨e, he⟩ := ofScores_eq_error_iff.mpr ⟨line, score, hlast, hnegative⟩
      cases h.symm.trans he
    · rw [← ofScores_perm hperm.symm hnodup, h]

/-- Of a line without a number, one with a zero and one with two scores, only the last is kept. -/
theorem ofScores_lawful_of_three :
    let es : List (Int × Quantity) := [(3, .ofInt 1), (2, .number (.float (0.0 / 0.0))),
      (1, .number (.float 0.5)), (-1, .ofInt 0), (3, .number (.float 0.25))]
    ∃ l, ofScores es = .ok l ∧ Lawful es l ∧ l.lines = [1, 3] ∧
      l.score 3 = .number (.float 0.25) ∧ (l.restrictToLines [3, 2]).lines = [3] := by
  intro es
  have hlawful := ofScores_lawful es
  have hlines : ((ofScores es).toOption.map fun l =>
      (l.lines, l.score 3, (l.restrictToLines [3, 2]).lines)) =
        some ([1, 3], .number (.float 0.25), [3]) := by
    decide +kernel
  cases h : ofScores es with
  | error e =>
    rw [h] at hlines
    cases hlines
  | ok l =>
    rw [h] at hlawful hlines
    simp only [Except.toOption, Option.map_some, Option.some.injEq, Prod.mk.injEq] at hlines
    exact ⟨l, rfl, hlawful, hlines⟩

private theorem canonical_singleton (h : isSuspicious score = true) :
    (⟨[(line, score)]⟩ : Localization Quantity).Canonical :=
  ⟨List.pairwise_singleton _ _, List.forall_mem_singleton.mpr h⟩

/-- A score that no float is near cannot be drawn, and a line of 4301 digits cannot be written. -/
theorem not_drawn_nor_written :
    (∃ l : Localization Quantity, ofScores [(1, .ofInt (Int.ofNat (Nat.pow 10 400)))] = .ok l ∧
      l.scores ≠ [] ∧ failure? (l.sample.run.run (⟨0⟩ : Counter)).1 =
        some (.arithmetic .overflow)) ∧
    ∃ l : Localization Quantity, ofScores [(Int.ofNat (Nat.pow 10 4300), .ofInt 1)] = .ok l ∧
      failure? l.toValue = some .tooManyDigits := by
  have hscored : Canonical ⟨[(1, .ofInt (Int.ofNat (Nat.pow 10 400)))]⟩ :=
    canonical_singleton (by decide +kernel)
  have hplaced : Canonical ⟨[(Int.ofNat (Nat.pow 10 4300), .ofInt 1)]⟩ :=
    canonical_singleton (by decide +kernel)
  exact ⟨⟨_, hscored.ofScores_scores, List.cons_ne_nil _ _, by decide +kernel⟩,
    _, hplaced.ofScores_scores, by decide +kernel⟩

end Localization

end GeneticRepair
