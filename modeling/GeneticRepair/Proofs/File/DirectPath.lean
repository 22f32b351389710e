import GeneticRepair.Proofs.File.Tree

/-!
# Direct paths

A path is direct if it is absolute and never steps back, so that it leads to just the names in it.
Normal paths are direct if they are absolute.
-/

namespace GeneticRepair

namespace Path

variable {p name : String} {ps : List String}

def isName (part : String) : Bool :=
  part != "" && part != "."

structure Direct (p : String) : Prop where
  absolute : isAbsolute p = true
  forward : ".." ∉ split p

private theorem foldl_step (absolute : Bool) (h : ".." ∉ ps) (before : List String) :
    ps.foldl (step absolute) before = (ps.filter isName).reverse ++ before := by
  induction ps generalizing before with
  | nil => rfl
  | cons part ps ih =>
    rw [List.mem_cons, not_or] at h
    obtain ⟨hpart, hps⟩ := h
    rw [List.foldl_cons, ih hps]
    by_cases hname : isName part = true
    · have hstep : step absolute before part = part :: before := by
        simp only [isName, Bool.and_eq_true, bne_iff_ne] at hname
        simp [step, hname.1, hname.2, Ne.symm hpart]
      simp [hstep, List.filter_cons_of_pos hname]
    · have hstep : step absolute before part = before := by
        simp only [isName, Bool.and_eq_true, bne_iff_ne, not_and_or, not_not] at hname
        simp [step, hname]
      rw [hstep, List.filter_cons_of_neg hname]

theorem Direct.parts_eq (h : Direct p) : parts p = (split p).filter isName := by
  rw [parts, foldl_step _ h.forward, List.append_nil, List.reverse_reverse]

private theorem Plain.isName (h : Plain name) : Path.isName name = true := by
  simp [Path.isName, h.ne_empty, h.ne_dot]

private theorem isAbsolute_append (h : isAbsolute p = true) (s : String) :
    isAbsolute (p ++ s) = true := by
  simp only [isAbsolute, beq_iff_eq] at h ⊢
  rw [String.toList_append, List.head?_append, h]
  rfl

theorem Direct.join (h : Direct p) (hname : Plain name) :
    Direct (Path.join p name) ∧ parts (Path.join p name) = parts p ++ [name] := by
  have hjoin : isAbsolute (Path.join p name) = true ∧ ∃ front,
      split (Path.join p name) = front ++ [name] ∧ ".." ∉ front ∧
        front.filter Path.isName = (split p).filter Path.isName := by
    by_cases hslash : p.toList.getLast? = some '/'
    · have heq : Path.join p name = p ++ name := by simp [Path.join, hname.isAbsolute_eq, hslash]
      obtain ⟨q, rfl⟩ := exists_append_slash hslash
      have hsplit : split (q ++ "/") = split q ++ [""] := by
        have hempty : split "" = [""] := by decide
        rw [← hempty, ← split_append_slash, String.append_empty]
      rw [heq]
      refine ⟨isAbsolute_append h.absolute name, split q, ?_, fun hmem => h.forward ?_, ?_⟩
      · rw [split_append_slash, hname.split_eq]
      · rw [hsplit]
        exact List.mem_append_left _ hmem
      · simp [hsplit, Path.isName]
    · have hne : p ≠ "" := by
        rintro rfl
        exact absurd h.absolute (by decide)
      have heq : Path.join p name = p ++ "/" ++ name := by
        simp [Path.join, hname.isAbsolute_eq, hslash, hne]
      rw [heq]
      refine ⟨isAbsolute_append (isAbsolute_append h.absolute _) name, split p, ?_, h.forward, rfl⟩
      rw [split_append_slash, hname.split_eq]
  obtain ⟨habsolute, front, hsplit, hforward, hfilter⟩ := hjoin
  have hdirect : Direct (Path.join p name) := by
    refine ⟨habsolute, ?_⟩
    rw [hsplit, List.mem_append, List.mem_singleton, not_or]
    exact ⟨hforward, hname.ne_dots.symm⟩
  refine ⟨hdirect, ?_⟩
  rw [hdirect.parts_eq, h.parts_eq, hsplit, List.filter_append, hfilter]
  simp [hname.isName]

/-! ## Normal paths -/

private theorem slash_notMem_of_mem_split {part : String} (h : part ∈ split p) :
    '/' ∉ part.toList := by
  have hchars : ∀ cs : List Char, ∀ ds ∈ cs.splitOn '/', '/' ∉ ds := by
    intro cs
    induction cs with
    | nil => simp
    | cons c cs ih =>
      rw [List.splitOn_cons_eq_if_modifyHead]
      split
      · exact List.forall_mem_cons.mpr ⟨List.not_mem_nil, ih⟩
      · rename_i hc
        cases hcs : cs.splitOn '/' with
        | nil => exact absurd hcs (List.splitOn_ne_nil _ _)
        | cons ds dss =>
          rw [hcs, List.forall_mem_cons] at ih
          refine List.forall_mem_cons.mpr ⟨?_, ih.2⟩
          rw [List.mem_cons, not_or]
          exact ⟨fun h => hc (beq_iff_eq.mpr h.symm), ih.1⟩
  obtain ⟨cs, hcs, rfl⟩ := List.mem_map.mp h
  rw [String.toList_ofList]
  exact hchars _ cs hcs

/-- What can be left of a path: names, and steps back if it is relative. -/
structure Remains (absolute : Bool) (part : String) : Prop where
  ne_empty : part ≠ ""
  slash_notMem : '/' ∉ part.toList
  ne_dots : absolute = true → part ≠ ".."

private theorem remains_dots : Remains false ".." :=
  ⟨by decide, by decide, nofun⟩

private theorem remains_step {absolute : Bool} {before : List String} {part : String}
    (hbefore : ∀ part' ∈ before, Remains absolute part') (hpart : '/' ∉ part.toList) :
    ∀ part' ∈ step absolute before part, Remains absolute part' := by
  unfold step
  split
  · exact hbefore
  · rename_i hname
    simp only [Bool.or_eq_true, beq_iff_eq, not_or] at hname
    split
    · rename_i hforward
      exact List.forall_mem_cons.mpr ⟨⟨hname.1, hpart, fun _ => by simpa using hforward⟩, hbefore⟩
    · split
      · cases absolute with
        | true => exact nofun
        | false => exact List.forall_mem_singleton.mpr remains_dots
      · exact List.forall_mem_cons.mpr ⟨(List.forall_mem_cons.mp hbefore).1, hbefore⟩
      · exact (List.forall_mem_cons.mp hbefore).2

private theorem remains_foldl {absolute : Bool} {before : List String}
    (hbefore : ∀ part ∈ before, Remains absolute part) (hps : ∀ part ∈ ps, '/' ∉ part.toList) :
    ∀ part ∈ ps.foldl (step absolute) before, Remains absolute part := by
  induction ps generalizing before with
  | nil => exact hbefore
  | cons part ps ih =>
    obtain ⟨hpart, hps⟩ := List.forall_mem_cons.mp hps
    exact ih (remains_step hbefore hpart) hps

private theorem remains_of_mem_parts {part : String} (h : part ∈ parts p) :
    Remains (isAbsolute p) part :=
  remains_foldl (by simp) (fun _ => slash_notMem_of_mem_split) part (List.mem_reverse.mp h)

private theorem split_intercalate (hne : ps ≠ []) (h : ∀ part ∈ ps, '/' ∉ part.toList) :
    split ("/".intercalate ps) = ps := by
  rw [split, String.toList_intercalate, show "/".toList = ['/'] from rfl,
    List.splitOn_intercalate _ _ (by simpa using hne)]
  · simp [Function.comp_def]
  · simpa using h

private theorem mem_split_replicate {part s : String} {k : Nat}
    (h : part ∈ split (String.ofList (List.replicate k '/') ++ s)) : part = "" ∨ part ∈ split s := by
  induction k with
  | zero => simpa using .inr h
  | succ k ih =>
    have hsplit : String.ofList (List.replicate (k + 1) '/') ++ s =
        "" ++ "/" ++ (String.ofList (List.replicate k '/') ++ s) := by
      rw [← String.toList_inj]
      simp [List.replicate_succ]
    rw [hsplit, split_append_slash, show split "" = [""] by decide] at h
    rcases List.mem_append.mp h with h | h
    · exact .inl (List.mem_singleton.mp h)
    · exact ih h

private theorem mem_split_normalize {part : String} (h : part ∈ split (normalize p)) :
    part = "" ∨ part = "." ∨ part ∈ parts p := by
  rw [normalize] at h
  split at h
  · rw [show split "." = ["."] by decide] at h
    exact .inr (.inl (List.mem_singleton.mp h))
  · rcases mem_split_replicate h with h | h
    · exact .inl h
    · by_cases hne : parts p = []
      · rw [hne] at h
        rw [String.intercalate_nil, show split "" = [""] by decide] at h
        exact .inl (List.mem_singleton.mp h)
      · rw [split_intercalate hne fun part' h' => (remains_of_mem_parts h').slash_notMem] at h
        exact .inr (.inr h)

private theorem isAbsolute_of_normalize (h : isAbsolute (normalize p) = true) :
    isAbsolute p = true := by
  by_contra hrelative
  have hslashes : rootSlashes p = 0 := by
    cases hp : p.toList with
    | nil => simp [rootSlashes, hp]
    | cons c cs =>
      have hc : ¬ c = '/' := by simpa [isAbsolute, hp] using hrelative
      simp [rootSlashes, hp, hc]
  rw [normalize, hslashes, List.replicate_zero, String.ofList_nil, String.empty_append] at h
  split at h
  · exact absurd h (by decide)
  · rename_i hempty
    have hne : parts p ≠ [] := by
      intro hnil
      simp [hnil] at hempty
    have hsplit := split_intercalate hne fun part hpart => (remains_of_mem_parts hpart).slash_notMem
    obtain ⟨cs, hcs⟩ : ∃ cs, ("/".intercalate (parts p)).toList = '/' :: cs := by
      simpa [isAbsolute, List.head?_eq_some_iff] using h
    have hfirst : "" ∈ parts p := by
      rw [← hsplit, split, hcs]
      simp [List.splitOn_cons_eq_if_modifyHead]
    exact (remains_of_mem_parts hfirst).ne_empty rfl

theorem direct_normalize (h : isAbsolute (normalize p) = true) : Direct (normalize p) := by
  refine ⟨h, fun hmem => ?_⟩
  rcases mem_split_normalize hmem with hdots | hdots | hdots
  · exact absurd hdots (by decide)
  · exact absurd hdots (by decide)
  · exact (remains_of_mem_parts hdots).ne_dots (isAbsolute_of_normalize h) rfl

end Path

end GeneticRepair
