import GeneticRepair.Proofs.Code.Obtained
import Mathlib.Data.List.Nodup

/-!
# The index of statements

The index goes through a module in one recursion and a path is followed in another. Both agree: the
paths of the index are the places of the statements, each once, and lead to the statements that
their entries describe.
-/

namespace GeneticRepair.Code

variable {n m holder : Node} {ns : List Node} {field : Field} {i index : Nat} {p : Place}
  {site : BlockSite} {path : Path} {scope : Option String} {s : Statement}

private theorem Label.fields_subset (l : Label) :
    l.fields ⊆ [Field.body, .orelse, .handlers, .finalbody, .cases] := by
  cases l <;> simp [fields]

/-! ## Entries -/

/-- Whatever a node holds has a longer path than the node. -/
theorem exists_path_of_mem_statementsIn (h : s ∈ statementsIn path scope n) :
    ∃ step rest, s.path = path ++ step :: rest := by
  induction n using Node.children_induction generalizing path scope with
  | step n ih =>
    rw [Node.statementsIn_eq] at h
    obtain ⟨field, -, hs⟩ := List.mem_flatMap.mp h
    obtain ⟨j, m, hm, ⟨-, rfl⟩ | hs⟩ := Node.mem_statementsFrom_iff.mp hs
    · exact ⟨_, [], rfl⟩
    · have hmem := n.rawBlock_subset_children field (List.mem_of_getElem? hm)
      obtain ⟨step, rest, heq⟩ := ih m hmem hs
      exact ⟨_, step :: rest, by rw [heq, BlockSite.step, List.append_assoc]; rfl⟩

/-- The entry of a node at a position, and those of what it holds, have paths through the
position. -/
theorem exists_path_of_visit (h : n.label.isStatement = true ∧ s = site.entry index n ∨
    s ∈ statementsIn (site.step index) scope n) :
    ∃ rest, s.path = site.path ++ (site.field, .index index) :: rest := by
  rcases h with ⟨-, rfl⟩ | h
  · exact ⟨[], rfl⟩
  · obtain ⟨step, rest, heq⟩ := exists_path_of_mem_statementsIn h
    exact ⟨step :: rest, by rw [heq, BlockSite.step, List.append_assoc]; rfl⟩

theorem exists_path_of_mem_statementsFrom (h : s ∈ statementsFrom site index ns) :
    ∃ j rest, s.path = site.path ++ (site.field, .index ((index + j : Nat) : Int)) :: rest := by
  obtain ⟨j, m, -, hs⟩ := Node.mem_statementsFrom_iff.mp h
  exact ⟨j, exists_path_of_visit hs⟩

/-- A relation holds along a block if it holds below each node, from each entry to those below it,
and between the entries of a node and those of a later one. -/
theorem pairwise_statementsFrom {R : Statement → Statement → Prop}
    (hbelow : ∀ n ∈ ns, ∀ path scope, (statementsIn path scope n).Pairwise R)
    (hentry : ∀ n ∈ ns, ∀ i scope, ∀ s ∈ statementsIn (site.step i) scope n,
      R (site.entry i n) s)
    (hlater : ns.Pairwise fun n m => ∀ i j s t, i < j →
      (n.label.isStatement = true ∧ s = site.entry i n ∨
        s ∈ statementsIn (site.step i) (scopeWithin site.scope n.label) n) →
      (m.label.isStatement = true ∧ t = site.entry j m ∨
        t ∈ statementsIn (site.step j) (scopeWithin site.scope m.label) m) → R s t) :
    (statementsFrom site index ns).Pairwise R := by
  induction ns generalizing index with
  | nil => exact .nil
  | cons n ns ih =>
    rw [List.forall_mem_cons] at hbelow hentry
    rw [List.pairwise_cons] at hlater
    have hfirst : ∀ s ∈ (if n.label.isStatement then [site.entry index n] else []),
        n.label.isStatement = true ∧ s = site.entry index n := by
      intro s hs
      split at hs
      · rename_i hstatement
        exact ⟨hstatement, List.mem_singleton.mp hs⟩
      · cases hs
    rw [statementsFrom, List.pairwise_append, List.pairwise_append]
    refine ⟨⟨?_, hbelow.1 _ _, fun s hs t ht => ?_⟩, ih hbelow.2 hentry.2 hlater.2,
      fun s hs t ht => ?_⟩
    · split <;> simp
    · obtain ⟨-, rfl⟩ := hfirst s hs
      exact hentry.1 _ _ t ht
    · obtain ⟨j, m, hm, ht⟩ := Node.mem_statementsFrom_iff.mp ht
      exact hlater.1 m (List.mem_of_getElem? hm) index _ s t (by omega)
        ((List.mem_append.mp hs).imp_left (hfirst s)) ht

private theorem pairwise_statementsIn (n : Node) (path : Path) (scope : Option String) :
    (statementsIn path scope n).Pairwise (·.path ≠ ·.path) := by
  induction n using Node.children_induction generalizing path scope with
  | step n ih =>
    rw [Node.statementsIn_eq, List.pairwise_flatMap]
    refine ⟨fun field _ => pairwise_statementsFrom
      (fun m hm => ih m (n.rawBlock_subset_children field hm)) (fun m _ i scope s hs => ?_)
      (List.pairwise_of_forall fun m k i j s t hij hs ht => ?_), ?_⟩
    · obtain ⟨step, rest, heq⟩ := exists_path_of_mem_statementsIn hs
      intro hpath
      rw [heq] at hpath
      exact List.cons_ne_nil step rest (List.self_eq_append_right.mp hpath)
    · obtain ⟨rest, heq⟩ := exists_path_of_visit hs
      obtain ⟨rest', heq'⟩ := exists_path_of_visit ht
      intro hpath
      rw [heq, heq'] at hpath
      simp only [List.append_cancel_left_eq, List.cons.injEq, Prod.mk.injEq,
        Position.index.injEq] at hpath
      omega
    have hfields : [Field.body, .orelse, .handlers, .finalbody, .cases].Pairwise (· ≠ ·) := by
      decide
    refine hfields.imp fun {field field'} hne s hs t ht => ?_
    obtain ⟨j, rest, heq⟩ := exists_path_of_mem_statementsFrom hs
    obtain ⟨j', rest', heq'⟩ := exists_path_of_mem_statementsFrom ht
    intro hpath
    rw [heq, heq'] at hpath
    simp only [Node.blockSite, List.append_cancel_left_eq, List.cons.injEq, Prod.mk.injEq] at hpath
    exact hne hpath.1.1

theorem Place.path_injective : Function.Injective Place.path := by
  refine List.map_injective_iff.mpr ?_
  rintro ⟨field, i⟩ ⟨field', i'⟩ heq
  obtain ⟨hfield, hi⟩ : field = field' ∧ (i : Int) = i' := by simpa using heq
  rw [hfield, Int.ofNat_inj.mp hi]

namespace Node

private theorem nodup_paths (n : Node) : (n.statements.map Statement.path).Nodup :=
  List.pairwise_map.mpr (pairwise_statementsIn n [] none)

/-! ## Places -/

private theorem exists_mem_statementsIn (hp : p ≠ []) (h : n.at? p = some m)
    (hm : m.label.isStatement = true) (path : Path) (scope : Option String) :
    ∃ s ∈ statementsIn path scope n, s.path = path ++ p.path := by
  induction p generalizing n path scope with
  | nil => exact absurd rfl hp
  | cons step p ih =>
    obtain ⟨field, i⟩ := step
    obtain ⟨hblock, child, hchild, hrest⟩ := at?_cons.mp h
    have hfield : field ∈ [Field.body, .orelse, .handlers, .finalbody, .cases] :=
      n.label.fields_subset (hasBlock_iff.mp hblock)
    have hfrom : ∀ s, (child.label.isStatement = true ∧
          s = (n.blockSite path scope field).entry (0 + i) child ∨
        s ∈ statementsIn ((n.blockSite path scope field).step (0 + i))
          (scopeWithin scope child.label) child) → s ∈ statementsIn path scope n := by
      intro s hs
      rw [statementsIn_eq]
      exact List.mem_flatMap.mpr ⟨field, hfield, mem_statementsFrom_iff.mpr ⟨i, child, hchild, hs⟩⟩
    cases p with
    | nil =>
      obtain rfl := Option.some.inj hrest
      refine ⟨_, hfrom _ (.inl ⟨hm, rfl⟩), ?_⟩
      simp [BlockSite.entry, BlockSite.step, blockSite, Place.path]
    | cons step p =>
      obtain ⟨s, hs, hpath⟩ := ih (List.cons_ne_nil _ _) hrest
        ((n.blockSite path scope field).step (0 + i)) (scopeWithin scope child.label)
      refine ⟨s, hfrom s (.inr hs), ?_⟩
      rw [hpath]
      simp [BlockSite.step, blockSite, Place.path]

private theorem exists_at?_of_within (hn : n.Built) (h : Within m n) : ∃ p, n.at? p = some m := by
  induction h with
  | self => exact ⟨[], rfl⟩
  | @under child n mem inner ih =>
    obtain ⟨p, hp⟩ := ih (hn.of_mem mem)
    obtain ⟨field, hfield⟩ := mem_children.mp mem
    obtain ⟨i, hi⟩ := List.mem_iff_getElem?.mp hfield
    have hblock : n.hasBlock field = true := (built_iff.mp hn).1.hasBlock_of_mem hfield
    exact ⟨(field, i) :: p, at?_cons.mpr ⟨hblock, child, hi, hp⟩⟩

/-! ## Following paths -/

private theorem ne_loose_of_isStatement (h : n.label.isStatement = true) : n.label ≠ .loose := by
  intro hl
  simp [hl, Label.isStatement] at h

variable {module : Node}

private theorem Lists.locate_eq (h : module.Lists s p field i holder m) :
    (Part.node module).locate s.path =
      .ok (.list ((holder.rawBlock field).map Node.toPart), .index i) := by
  rw [h.path_eq]
  exact Part.locate_of_at? h.at_eq h.hasBlock i

private theorem Lists.follow_eq (h : module.Lists s p field i holder m) :
    module.follow s.path = .ok (.node m) := by
  rw [follow, Part.follow, h.locate_eq, ok_bind]
  exact Part.pick_child h.getElem_eq (ne_loose_of_isStatement h.isStatement)

/-- A position of a block that holds a statement has one entry, which describes the statement. -/
theorem Built.existsUnique_lists (hmodule : module.Built) (hholder : module.at? p = some holder)
    (hblock : holder.hasBlock field = true) (hm : (holder.rawBlock field)[i]? = some m)
    (hstatement : m.label.isStatement = true) :
    ∃! s, s ∈ module.statements ∧ module.Lists s p field i holder m := by
  have hplace : module.at? (p ++ [(field, i)]) = some m :=
    at?_concat.mpr ⟨holder, hholder, hblock, hm⟩
  obtain ⟨s, hs, hpath⟩ := exists_mem_statementsIn (by simp) hplace hstatement [] none
  obtain ⟨p', field', i', holder', m', hlists⟩ := hmodule.exists_lists hs
  have hsame : p' ++ [(field', i')] = p ++ [(field, i)] :=
    Place.path_injective (hlists.path_eq.symm.trans hpath)
  obtain ⟨rfl, hstep⟩ := List.append_inj' hsame rfl
  obtain ⟨rfl, rfl⟩ := Prod.mk.inj (List.singleton_inj.mp hstep)
  obtain rfl : holder' = holder := Option.some.inj (hlists.at_eq.symm.trans hholder)
  obtain rfl : m' = m := Option.some.inj (hlists.getElem_eq.symm.trans hm)
  refine ⟨s, ⟨hs, hlists⟩, fun t ⟨ht, hlists'⟩ => ?_⟩
  exact List.inj_on_of_nodup_map module.nodup_paths ht hs
    (hlists'.path_eq.trans hlists.path_eq.symm)

/-- The index of a module has one entry for each statement in a block of any of its nodes, and no
two with the same path. The path of each leads to the statement that it was made from, in a block of
the node that it names as the parent. As a copy of a module is the same tree, the path leads to the
same there. -/
theorem statements_bijective (h : module.Obtained) :
    (module.statements.map Statement.path).Nodup ∧
      (∀ holder, Within holder module → ∃ p, module.at? p = some holder) ∧
      (∀ p holder field i m, module.at? p = some holder → holder.hasBlock field = true →
        (holder.rawBlock field)[i]? = some m → m.label.isStatement = true →
          ∃! s, s ∈ module.statements ∧ module.Lists s p field i holder m) ∧
      ∀ s ∈ module.statements, ∃ p field i holder m, module.Lists s p field i holder m ∧
        s.kind = m.label.kind ∧ s.span = m.span ∧ s.parent = holder.label.kind ∧
        (Part.node module).locate s.path =
          .ok (.list ((holder.rawBlock field).map Node.toPart), .index i) ∧
        module.follow s.path = .ok (.node m) := by
  have hbuilt := h.built
  refine ⟨module.nodup_paths, fun holder => exists_at?_of_within hbuilt,
    fun p holder field i m => hbuilt.existsUnique_lists, fun s hs => ?_⟩
  obtain ⟨p, field, i, holder, m, hlists⟩ := hbuilt.exists_lists hs
  exact ⟨p, field, i, holder, m, hlists, hlists.kind_eq, hlists.span_eq, hlists.parent_eq,
    hlists.locate_eq, hlists.follow_eq⟩

theorem statements_of_try :
    ∃ module, parseLines ["try:", "    f()", "except E:", "    pass", "else:", "    g()"] =
        .ok module ∧
      module.statements.map Statement.path = [Place.path [(.body, 0)],
        Place.path [(.body, 0), (.body, 0)], Place.path [(.body, 0), (.orelse, 0)],
        Place.path [(.body, 0), (.handlers, 0), (.body, 0)]] ∧
      (module.statements.map Statement.path).Nodup ∧
      ∀ s ∈ module.statements, ∃ m, module.follow s.path = .ok (.node m) ∧
        s.kind = m.label.kind := by
  have hpaths : (parseLines
      ["try:", "    f()", "except E:", "    pass", "else:", "    g()"]).toOption.map
        (fun module => module.statements.map Statement.path) = some [Place.path [(.body, 0)],
          Place.path [(.body, 0), (.body, 0)], Place.path [(.body, 0), (.orelse, 0)],
          Place.path [(.body, 0), (.handlers, 0), (.body, 0)]] := by
    decide +kernel
  obtain ⟨module, hparse, hpaths⟩ := exists_ok_of_map_eq hpaths
  obtain ⟨hnodup, -, -, hfollow⟩ := statements_bijective (.parsed hparse)
  refine ⟨module, hparse, hpaths, hnodup, fun s hs => ?_⟩
  obtain ⟨_, _, _, _, m, -, hkind, -, -, -, hm⟩ := hfollow s hs
  exact ⟨m, hm, hkind⟩

end Node

end GeneticRepair.Code
