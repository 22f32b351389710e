import GeneticRepair.Code.Edit
import GeneticRepair.Proofs.Code.Shape
import Mathlib.Data.List.InsertIdx

/-!
# Places of statements

A place counts its positions from the front and leads from node to node. The path of every statement
of a module is a place, and an edit at a place changes the block there and nothing else.
-/

namespace GeneticRepair.Code

abbrev Place := List (Field × Nat)

def Place.path (p : Place) : Path :=
  p.map fun (field, i) => (field, .index i)

namespace Node

def at? : Node → Place → Option Node
  | n, [] => some n
  | n, (field, i) :: p =>
    if n.hasBlock field then ((n.rawBlock field)[i]?).bind (at? · p) else none

def updateAt (change : List Node → Nat → List Node) : Node → Place → Node
  | n, [] => n
  | n, [(field, i)] => n.setBlock field (change (n.rawBlock field) i)
  | n, (field, i) :: p =>
    n.setBlock field ((n.rawBlock field).modify i (updateAt change · p))

variable {m n k : Node} {field : Field} {i : Nat} {p q : Place}

theorem at?_cons : n.at? ((field, i) :: p) = some m ↔
    n.hasBlock field = true ∧ ∃ child, (n.rawBlock field)[i]? = some child ∧
      child.at? p = some m := by
  rw [at?]
  split
  · rename_i h
    simp [h, Option.bind_eq_some_iff]
  · rename_i h
    simp [h]

theorem within_of_at? (h : n.at? p = some m) : Within m n := by
  induction p generalizing n with
  | nil =>
    cases h
    exact .self _
  | cons step p ih =>
    obtain ⟨-, child, hchild, hp⟩ := at?_cons.mp h
    exact .under (n.rawBlock_subset_children step.1 (List.mem_of_getElem? hchild)) (ih hp)

/-! ## The statements of a module -/

theorem at?_append (p q : Place) : n.at? (p ++ q) = (n.at? p).bind (·.at? q) := by
  induction p generalizing n with
  | nil => rfl
  | cons step p ih =>
    obtain ⟨field, i⟩ := step
    rw [List.cons_append, at?, at?]
    split
    · cases hchild : (n.rawBlock field)[i]? with
      | none => rfl
      | some child => exact ih
    · rfl

theorem at?_concat : n.at? (p ++ [(field, i)]) = some m ↔
    ∃ w, n.at? p = some w ∧ w.hasBlock field = true ∧ (w.rawBlock field)[i]? = some m := by
  have hstep : ∀ w : Node, w.at? [(field, i)] = some m ↔
      w.hasBlock field = true ∧ (w.rawBlock field)[i]? = some m := by
    intro w
    rw [at?_cons]
    simp only [at?, Option.some.injEq, exists_eq_right]
  simp only [at?_append, Option.bind_eq_some_iff, hstep]

def blockSite (n : Node) (path : Path) (scope : Option String) (field : Field) : BlockSite :=
  ⟨n.label, field, path, scope, docstrings n.label field (n.rawBlock field),
    (n.rawBlock field).length⟩

private theorem docstrings_of_ne_body {l : Label} {ns : List Node} (h : field ≠ .body) :
    docstrings l field ns = 0 := by
  cases ns with
  | nil => rfl
  | cons m ns => rw [docstrings_cons, if_neg fun hdoc => h hdoc.1]

/-- Only the first statement of a block can be a docstring. -/
theorem lt_docstrings_iff {l : Label} {ns : List Node} (hm : ns[i]? = some m) :
    i < docstrings l field ns ↔
      i = 0 ∧ field = .body ∧ l.isDocumentable = true ∧ m.isText = true := by
  cases ns with
  | nil => cases hm
  | cons d ns =>
    rw [docstrings_cons]
    cases i with
    | zero =>
      obtain rfl : d = m := by simpa using hm
      split <;> simp_all
    | succ i =>
      split <;> simp

theorem statementsIn_eq (path : Path) (scope : Option String) (n : Node) :
    statementsIn path scope n =
      [Field.body, .orelse, .handlers, .finalbody, .cases].flatMap fun field =>
        statementsFrom (n.blockSite path scope field) 0 (n.rawBlock field) := by
  obtain ⟨l, s, ts, b, o, h, f, c⟩ := n
  simp only [List.flatMap_cons, List.flatMap_nil, List.append_nil, statementsIn, blockSite,
    rawBlock, label_mk, List.append_assoc, docstrings_of_ne_body, ne_eq, reduceCtorEq,
    not_false_eq_true]

theorem mem_statementsFrom_iff {site : BlockSite} {index : Nat} {ns : List Node} {s : Statement} :
    s ∈ statementsFrom site index ns ↔
      ∃ j n, ns[j]? = some n ∧ (n.label.isStatement = true ∧ s = site.entry (index + j) n ∨
        s ∈ statementsIn (site.step (index + j)) (scopeWithin site.scope n.label) n) := by
  induction ns generalizing index with
  | nil => simp [statementsFrom]
  | cons n ns ih =>
    have hfirst : s ∈ (if n.label.isStatement then [site.entry index n] else []) ↔
        n.label.isStatement = true ∧ s = site.entry index n := by
      split <;> simp [*]
    rw [statementsFrom, List.mem_append, List.mem_append, hfirst, ih]
    constructor
    · rintro (h | ⟨j, m, hm, h⟩)
      · exact ⟨0, n, rfl, h⟩
      · rw [Nat.add_assoc, Nat.add_comm 1 j] at h
        exact ⟨j + 1, m, hm, h⟩
    · rintro ⟨j, m, hm, h⟩
      cases j with
      | zero =>
        obtain rfl := Option.some.inj hm
        exact .inl h
      | succ j =>
        rw [Nat.add_comm j 1, ← Nat.add_assoc] at h
        exact .inr ⟨j, m, hm, h⟩

/-- The entry of the index describes a node, at a position of a block of the node at a place. -/
structure Lists (module : Node) (s : Statement) (p : Place) (field : Field) (i : Nat)
    (holder m : Node) : Prop where
  at_eq : module.at? p = some holder
  hasBlock : holder.hasBlock field = true
  getElem_eq : (holder.rawBlock field)[i]? = some m
  isStatement : m.label.isStatement = true
  entry_eq : ∃ scope, s = (holder.blockSite p.path scope field).entry i m

namespace Lists

variable {module holder : Node} {s : Statement}

theorem path_eq (h : Lists module s p field i holder m) :
    s.path = Place.path (p ++ [(field, i)]) := by
  obtain ⟨scope, rfl⟩ := h.entry_eq
  simp [BlockSite.entry, BlockSite.step, blockSite, Place.path]

theorem at_append_eq (h : Lists module s p field i holder m) :
    module.at? (p ++ [(field, i)]) = some m :=
  at?_concat.mpr ⟨holder, h.at_eq, h.hasBlock, h.getElem_eq⟩

theorem kind_eq (h : Lists module s p field i holder m) : s.kind = m.label.kind := by
  obtain ⟨scope, rfl⟩ := h.entry_eq
  rfl

theorem span_eq (h : Lists module s p field i holder m) : s.span = m.span := by
  obtain ⟨scope, rfl⟩ := h.entry_eq
  rfl

theorem parent_eq (h : Lists module s p field i holder m) : s.parent = holder.label.kind := by
  obtain ⟨scope, rfl⟩ := h.entry_eq
  rfl

theorem compound_eq (h : Lists module s p field i holder m) :
    s.compound = (m.label.fields != []) := by
  obtain ⟨scope, rfl⟩ := h.entry_eq
  rfl

theorem empty_eq (h : Lists module s p field i holder m) : s.empty = m.isEmpty := by
  obtain ⟨scope, rfl⟩ := h.entry_eq
  rfl

theorem docstring_iff (h : Lists module s p field i holder m) :
    s.docstring = true ↔ i < docstrings holder.label field (holder.rawBlock field) := by
  obtain ⟨scope, rfl⟩ := h.entry_eq
  have hle : docstrings holder.label field (holder.rawBlock field) ≤ 1 := by
    cases holder.rawBlock field with
    | nil => exact Nat.zero_le 1
    | cons d ns =>
      rw [docstrings_cons]
      split <;> omega
  simp only [BlockSite.entry, blockSite, Bool.and_eq_true, beq_iff_eq]
  omega

/-- What the index calls a placeholder is the sole code of a function, and does nothing. -/
theorem placeholder_iff (h : Lists module s p field i holder m) :
    s.placeholder = true ↔ holder.label.isFunction = true ∧ field = .body ∧
      (holder.rawBlock field).drop (docstrings holder.label field (holder.rawBlock field)) = [m] ∧
      m.isEmpty = true := by
  obtain ⟨scope, rfl⟩ := h.entry_eq
  have hget := h.getElem_eq
  simp only [BlockSite.entry, blockSite, Bool.and_eq_true, beq_iff_eq, and_assoc]
  constructor
  · rintro ⟨hfunction, rfl, hsize, rfl, hempty⟩
    refine ⟨hfunction, rfl, ?_, hempty⟩
    rw [List.drop_eq_getElem?_toList_append, hget]
    simp [hsize]
  · rintro ⟨hfunction, rfl, hdrop, hempty⟩
    have hlength := congrArg List.length hdrop
    have hlt := (List.getElem?_eq_some_iff.mp hget).1
    have hle : docstrings holder.label .body (holder.rawBlock .body) ≤ i := by
      by_contra hlt
      obtain ⟨-, -, -, htext⟩ := (lt_docstrings_iff hget).mp (Nat.lt_of_not_le hlt)
      rw [not_isEmpty_of_isText htext] at hempty
      cases hempty
    rw [List.length_drop, List.length_singleton] at hlength
    exact ⟨hfunction, rfl, by omega, by omega, hempty⟩

end Lists

private theorem exists_lists_of_mem_statementsIn {module : Node} (hmodule : module.Built)
    {p : Place}
    (hn : module.at? p = some n) {scope : Option String} {s : Statement}
    (h : s ∈ statementsIn p.path scope n) :
    ∃ q field i holder m, module.Lists s q field i holder m := by
  induction n using children_induction generalizing p scope with
  | step n ih =>
    rw [statementsIn_eq] at h
    obtain ⟨field, -, hs⟩ := List.mem_flatMap.mp h
    obtain ⟨i, m, hm, hs⟩ := mem_statementsFrom_iff.mp hs
    rw [Nat.zero_add] at hs
    have hmem := n.rawBlock_subset_children field (List.mem_of_getElem? hm)
    have hblock : n.hasBlock field = true :=
      Framed.hasBlock_of_mem (hmodule n (within_of_at? hn)) (List.mem_of_getElem? hm)
    rcases hs with ⟨hstatement, rfl⟩ | hs
    · exact ⟨p, field, i, n, m, hn, hblock, hm, hstatement, scope, rfl⟩
    · have hplace : module.at? (p ++ [(field, i)]) = some m :=
        at?_concat.mpr ⟨n, hn, hblock, hm⟩
      have hpath : (n.blockSite p.path scope field).step i = Place.path (p ++ [(field, i)]) := by
        simp [BlockSite.step, blockSite, Place.path]
      rw [hpath] at hs
      exact ih m hmem hplace hs

/-- Every statement of the index is the entry of a node of the module. -/
theorem Built.exists_lists (hn : n.Built) {s : Statement} (h : s ∈ n.statements) :
    ∃ p field i holder m, n.Lists s p field i holder m :=
  exists_lists_of_mem_statementsIn (p := []) hn rfl h

theorem exists_lists (hn : n.Shaped) {s : Statement} (h : s ∈ n.statements) :
    ∃ p field i holder m, n.Lists s p field i holder m :=
  hn.built.exists_lists h

/-- The path of a statement is a place in the module. -/
theorem exists_place_of_mem_statements (hn : n.Shaped) {s : Statement} (h : s ∈ n.statements) :
    ∃ p m, p ≠ [] ∧ s.path = Place.path p ∧ n.at? p = some m := by
  obtain ⟨p, field, i, holder, m, hs⟩ := exists_lists hn h
  exact ⟨p ++ [(field, i)], m, by simp, hs.path_eq, hs.at_append_eq⟩

end Node

end GeneticRepair.Code
