import GeneticRepair.Proofs.Code.Place

/-!
# Targets of edits

A target is a simple statement that is no docstring, and the first such statement on its line. What
the index knows of it is true of the node that it is the entry of.
-/

namespace GeneticRepair.Code

/-! ## The first statement on a line -/

private theorem lookup_filter_ne {α β : Type} [DecidableEq α] (xs : List (α × β)) (a key : α) :
    (xs.filter (·.1 != a)).lookup key = if key = a then none else xs.lookup key := by
  induction xs with
  | nil => simp
  | cons x xs ih =>
    obtain ⟨k, b⟩ := x
    by_cases hk : k = a
    · subst hk
      rw [List.filter_cons_of_neg (by simp), ih]
      by_cases hkey : key = k
      · rw [if_pos hkey, if_pos hkey]
      · rw [if_neg hkey, if_neg hkey, List.lookup_cons, beq_false_of_ne hkey]
    · rw [List.filter_cons_of_pos (by simpa using hk), List.lookup_cons, List.lookup_cons, ih]
      by_cases hkey : key = k
      · simp [hkey, hk]
      · rw [beq_false_of_ne hkey]

private theorem lookup_firstOnLine (ss : List Statement) (line : Nat) :
    (firstOnLine ss).lookup line = ss.find? (·.span.line == line) := by
  induction ss with
  | nil => rfl
  | cons s ss ih =>
    rw [firstOnLine, List.lookup_cons, lookup_filter_ne, ih, List.find?_cons]
    by_cases hline : line = s.span.line
    · simp [hline]
    · rw [beq_false_of_ne hline, beq_false_of_ne (Ne.symm hline), if_neg hline]

namespace Node

variable {module : Node} {s : Statement} {line : Nat}

/-- A simple statement of the module that is no docstring. -/
def Simple (module : Node) (s : Statement) : Prop :=
  ∃ p field i holder m, module.Lists s p field i holder m ∧ m.label.fields = [] ∧
    docstrings holder.label field (holder.rawBlock field) ≤ i

/-- Besides a docstring, the statement is all that there is in a function, and it is empty. -/
def SolePlaceholder (module : Node) (s : Statement) : Prop :=
  ∃ p i holder m, module.Lists s p .body i holder m ∧ holder.label.isFunction = true ∧
    (holder.rawBlock .body).drop (docstrings holder.label .body (holder.rawBlock .body)) = [m] ∧
    m.isEmpty = true

/-- Of the simple statements that begin on the line, and are no docstrings, it is the first. -/
structure FirstSimple (module : Node) (line : Nat) (s : Statement) : Prop where
  simple : module.Simple s
  line_eq : s.span.line = line
  first : ∃ before after, module.statements = before ++ s :: after ∧
    ∀ r ∈ before, module.Simple r → r.span.line ≠ line

theorem Lists.mutatable_iff {p : Place} {field : Field} {i : Nat} {holder m : Node}
    (hs : module.Lists s p field i holder m) : s.mutatable = true ↔
      m.label.fields = [] ∧ docstrings holder.label field (holder.rawBlock field) ≤ i := by
  have hdocstring : s.docstring = false ↔
      docstrings holder.label field (holder.rawBlock field) ≤ i := by
    rw [← Bool.not_eq_true, hs.docstring_iff, Nat.not_lt]
  simp only [Statement.mutatable, Bool.and_eq_true, Bool.not_eq_true', hs.compound_eq, hdocstring]
  simp

private theorem mutatable_iff (hmodule : module.Shaped) (hs : s ∈ module.statements) :
    s.mutatable = true ↔ module.Simple s := by
  constructor
  · intro hmutatable
    obtain ⟨p, field, i, holder, m, hlists⟩ := exists_lists hmodule hs
    obtain ⟨hfields, hdoc⟩ := hlists.mutatable_iff.mp hmutatable
    exact ⟨p, field, i, holder, m, hlists, hfields, hdoc⟩
  · rintro ⟨p, field, i, holder, m, hlists, hfields, hdoc⟩
    exact hlists.mutatable_iff.mpr ⟨hfields, hdoc⟩

theorem placeholder_iff (hmodule : module.Shaped) (hs : s ∈ module.statements) :
    s.placeholder = true ↔ module.SolePlaceholder s := by
  constructor
  · intro hplaceholder
    obtain ⟨p, field, i, holder, m, hlists⟩ := exists_lists hmodule hs
    obtain ⟨hfunction, rfl, hsole, hempty⟩ := hlists.placeholder_iff.mp hplaceholder
    exact ⟨p, i, holder, m, hlists, hfunction, hsole, hempty⟩
  · rintro ⟨p, i, holder, m, hlists, hfunction, hsole, hempty⟩
    exact hlists.placeholder_iff.mpr ⟨hfunction, rfl, hsole, hempty⟩

theorem mem_statements_of_lookup (h : module.mutatableLines.lookup line = some s) :
    s ∈ module.statements := by
  rw [mutatableLines, lookup_firstOnLine] at h
  exact (List.mem_filter.mp (List.mem_of_find?_eq_some h)).1

theorem firstSimple_of_lookup (hmodule : module.Shaped)
    (h : module.mutatableLines.lookup line = some s) : module.FirstSimple line s := by
  have hmem := mem_statements_of_lookup h
  rw [mutatableLines, lookup_firstOnLine, List.find?_filter, List.find?_eq_some_iff_append] at h
  obtain ⟨hfound, before, after, hsplit, hbefore⟩ := h
  simp only [decide_eq_true_eq, beq_iff_eq] at hfound
  refine ⟨(mutatable_iff hmodule hmem).mp hfound.1, hfound.2, before, after, hsplit, ?_⟩
  intro r hr hsimple hline
  have hmutatable := (mutatable_iff hmodule (by simp [hsplit, hr])).mpr hsimple
  have hnot := hbefore r hr
  simp [hmutatable, hline] at hnot

theorem lookup_of_firstSimple (hmodule : module.Shaped) (h : module.FirstSimple line s) :
    module.mutatableLines.lookup line = some s := by
  obtain ⟨before, after, hsplit, hbefore⟩ := h.first
  have hmem : s ∈ module.statements := by simp [hsplit]
  rw [mutatableLines, lookup_firstOnLine, List.find?_filter, List.find?_eq_some_iff_append]
  refine ⟨?_, before, after, hsplit, ?_⟩
  · simp [(mutatable_iff hmodule hmem).mpr h.simple, h.line_eq]
  · intro r hr
    by_contra hfound
    simp only [Bool.not_eq_true', Bool.not_eq_false, decide_eq_true_eq, beq_iff_eq] at hfound
    have hsimple := (mutatable_iff hmodule (by simp [hsplit, hr])).mp hfound.1
    exact hbefore r hr hsimple hfound.2

theorem mem_lines_iff (hmodule : module.Shaped) :
    line ∈ module.mutatableLines.map Prod.fst ↔
      ∃ s ∈ module.statements, module.Simple s ∧ s.span.line = line := by
  have hlookup : line ∈ module.mutatableLines.map Prod.fst ↔
      (module.mutatableLines.lookup line).isSome = true := by
    rw [List.lookup_isSome_iff, List.mem_map]
    simp only [beq_iff_eq, eq_comm (a := line)]
  rw [hlookup, mutatableLines, lookup_firstOnLine, List.find?_isSome]
  constructor
  · rintro ⟨s, hs, hline⟩
    obtain ⟨hmem, hmutatable⟩ := List.mem_filter.mp hs
    exact ⟨s, hmem, (mutatable_iff hmodule hmem).mp hmutatable, by simpa using hline⟩
  · rintro ⟨s, hmem, hsimple, hline⟩
    have hmutatable := (mutatable_iff hmodule hmem).mpr hsimple
    exact ⟨s, List.mem_filter.mpr ⟨hmem, hmutatable⟩, by simpa using hline⟩

end Node

end GeneticRepair.Code
