import GeneticRepair.Proofs.Code.Place

/-!
# Edits at places

An edit of a shaped module whose paths are places succeeds, and comes to changing blocks. Each edit
replaces the node at a place by a list of nodes, which is empty for a deletion and holds the old node
behind the new one for an insertion, and then brings the module to normal form.
-/

namespace GeneticRepair.Code

variable {m n k : Node} {ns : List Node} {field : Field} {i : Nat} {p q : Place}

theorem ok_bind {ε α β : Type} (a : α) (f : α → Except ε β) :
    (Except.ok a >>= f) = f a :=
  rfl

theorem exists_ok_of_map_eq {ε α β : Type} {x : Except ε α} {f : α → β} {b : β}
    (h : x.toOption.map f = some b) : ∃ a, x = .ok a ∧ f a = b := by
  cases x with
  | error _ => cases h
  | ok a => exact ⟨a, rfl, Option.some.inj h⟩

private theorem Node.toPart_eq (h : n.label ≠ .loose) : n.toPart = .node n := by
  unfold toPart
  split
  · exact absurd rfl h
  · rfl

private theorem Node.ne_loose_of_hasBlock (h : n.hasBlock field = true) : n.label ≠ .loose := by
  intro hl
  simp [hasBlock, hl, Label.fields] at h

theorem Node.modify_eq_set (f : Node → Node) (h : ns[i]? = some m) :
    ns.modify i f = ns.set i (f m) := by
  rw [List.modify_eq_set, h, Option.getD_some]

private theorem indexIn_of_lt {length : Nat} (h : i < length) :
    indexIn length (.index i) = .ok i := by
  have hnot : ¬ (i : Int) < 0 := by omega
  have hlt : 0 ≤ (i : Int) ∧ (i : Int) < length := by omega
  simp only [indexIn, if_neg hnot, if_pos hlt, Int.toNat_natCast]
  rfl

private theorem insertionIndex_of_lt {length : Nat} (h : i < length) :
    insertionIndex length (.index i) = .ok i := by
  have hnot : ¬ (i : Int) < 0 := by omega
  have hle : (i : Int).natAbs ≤ length := by omega
  have hmin : min i length = i := by omega
  simp only [insertionIndex, if_neg hnot, if_pos (Or.inl hle), Int.toNat_natCast, hmin]
  rfl

namespace Part

private theorem get_of_hasBlock (h : n.hasBlock field = true) :
    (Part.node n).get field = .ok (.list ((n.rawBlock field).map Node.toPart)) := by
  have hlist : (Part.node n).list? field = some ((n.rawBlock field).map Node.toPart) := by
    rw [list?, Node.list?, if_pos h]
  have hnameless : field ≠ .nameless := by
    rintro rfl
    obtain ⟨l, s, ts, b, o, hs, f, c⟩ := n
    cases l <;> simp [Node.hasBlock, Label.fields] at h
  unfold get
  rw [hlist]
  cases field with
  | nameless => exact absurd rfl hnameless
  | _ => rfl

private theorem map_toPart (hn : n.Shaped) (field : Field) :
    (n.rawBlock field).map Node.toPart = (n.rawBlock field).map .node := by
  refine List.map_congr_left fun m hm => Node.toPart_eq ?_
  exact (hn m (.under (n.rawBlock_subset_children field hm) (.self m))).label_ne

private theorem get_block (hn : n.Shaped) (h : n.hasBlock field = true) :
    (Part.node n).get field = .ok (.list ((n.rawBlock field).map .node)) := by
  rw [get_of_hasBlock h, map_toPart hn]

private theorem mapM_toNode (ns : List Node) : (ns.map Part.node).mapM toNode = .ok ns := by
  rw [List.mapM_map]
  exact List.mapM_pure.trans (by rw [List.map_id']; rfl)

private theorem setList_block (h : n.hasBlock field = true) (ns : List Node) :
    (Part.node n).setList field (ns.map .node) = .ok (.node (n.setBlock field ns)) := by
  simp only [setList, Node.setList, if_pos h, mapM_toNode]
  rfl

private theorem pickFrom_of_getElem? {ps : List Part} {part : Part} (h : ps[i]? = some part) :
    pickFrom ps (.index i) = .ok part := by
  simp only [pickFrom, indexIn_of_lt (List.getElem?_eq_some_iff.mp h).1, ok_bind, h]
  rfl

private theorem pickFrom_map (h : ns[i]? = some m) :
    pickFrom (ns.map .node) (.index i) = .ok (.node m) :=
  pickFrom_of_getElem? (by rw [List.getElem?_map, h, Option.map_some])

theorem pick_child (h : (n.rawBlock field)[i]? = some m) (hm : m.label ≠ .loose) :
    pick (.list ((n.rawBlock field).map Node.toPart)) (.index i) = .ok (.node m) := by
  refine pickFrom_of_getElem? ?_
  rw [List.getElem?_map, h, Option.map_some, Node.toPart_eq hm]

theorem locate_of_at? {holder : Node} (h : n.at? p = some holder)
    (hblock : holder.hasBlock field = true) (i : Nat) :
    (Part.node n).locate (Place.path (p ++ [(field, i)])) =
      .ok (.list ((holder.rawBlock field).map Node.toPart), .index i) := by
  induction p generalizing n with
  | nil =>
    obtain rfl := Option.some.inj h
    simp only [List.nil_append, Place.path, List.map_cons, List.map_nil, locate,
      get_of_hasBlock hblock, ok_bind]
    rfl
  | cons step p ih =>
    obtain ⟨field', j⟩ := step
    obtain ⟨hblock', child, hchild, hrest⟩ := Node.at?_cons.mp h
    have hloose : child.label ≠ .loose := by
      cases p with
      | nil =>
        obtain rfl := Option.some.inj hrest
        exact Node.ne_loose_of_hasBlock hblock
      | cons step p => exact Node.ne_loose_of_hasBlock (Node.at?_cons.mp hrest).1
    have hlocate := ih hrest
    obtain ⟨step', path, hpath⟩ := List.exists_cons_of_ne_nil
      (show Place.path (p ++ [(field, i)]) ≠ [] by simp [Place.path])
    rw [hpath] at hlocate
    have hcons : Place.path ((field', j) :: p ++ [(field, i)]) =
        (field', .index j) :: step' :: path := by
      rw [← hpath]
      rfl
    rw [hcons, locate, get_of_hasBlock hblock', ok_bind, pick_child hchild hloose, ok_bind, hlocate]
    exact List.cons_ne_nil step' path

private theorem locate_place (hn : n.Shaped) (hp : p ≠ []) (h : n.at? p = some m) :
    ∃ (ns : List Node) (i : Nat),
      (Part.node n).locate p.path = .ok (.list (ns.map .node), .index i) ∧ ns[i]? = some m := by
  obtain ⟨front, ⟨field, i⟩, rfl⟩ := (List.eq_nil_or_concat p).resolve_left hp
  rw [List.concat_eq_append] at h ⊢
  obtain ⟨holder, hholder, hblock, hm⟩ := Node.at?_concat.mp h
  refine ⟨holder.rawBlock field, i, ?_, hm⟩
  rw [locate_of_at? hholder hblock, map_toPart (hn.within (Node.within_of_at? hholder))]

private theorem follow_place (hn : n.Shaped) (hp : p ≠ []) (h : n.at? p = some m) :
    (Part.node n).follow p.path = .ok (.node m) := by
  obtain ⟨ns, i, hlocate, hm⟩ := locate_place hn hp h
  simp only [follow, hlocate, ok_bind, pick, pickFrom_map hm]

private theorem resolve_place (hn : n.Shaped) (h : n.at? p = some m) :
    (Part.node n).resolve p.path = .ok p := by
  induction p generalizing n with
  | nil => rfl
  | cons step p ih =>
    obtain ⟨field, i⟩ := step
    obtain ⟨hblock, child, hchild, hrest⟩ := Node.at?_cons.mp h
    have hmem := n.rawBlock_subset_children field (List.mem_of_getElem? hchild)
    have hrec := ih (hn.of_mem hmem) hrest
    have hlt : i < ((n.rawBlock field).map Part.node).length := by
      simpa using (List.getElem?_eq_some_iff.mp hchild).1
    simp only [Place.path, List.map_cons] at hrec ⊢
    simp only [resolve, get_block hn hblock, ok_bind, indexIn_of_lt hlt, pickFrom_map hchild, hrec]
    rfl

/-- A change of a list of parts that comes to a change of a block. -/
def Changes (change : Attribute → Position → Except PathError (List Part))
    (g : List Node → Nat → List Node) : Prop :=
  ∀ (ns : List Node) (i : Nat), i < ns.length →
    change (.list (ns.map .node)) (.index i) = .ok ((g ns i).map .node)

private theorem modifyList_place {change : Attribute → Position → Except PathError (List Part)}
    {g : List Node → Nat → List Node} (hchange : Changes change g) (hn : n.Shaped) (hp : p ≠ [])
    (h : n.at? p = some m) :
    modifyList change (.node n) p.path = .ok (.node (n.updateAt g p)) := by
  induction p generalizing n with
  | nil => exact absurd rfl hp
  | cons step p ih =>
    obtain ⟨field, i⟩ := step
    obtain ⟨hblock, child, hchild, hrest⟩ := Node.at?_cons.mp h
    have hget := get_block hn hblock
    have hlt := (List.getElem?_eq_some_iff.mp hchild).1
    cases p with
    | nil =>
      simp only [Place.path, List.map_cons, List.map_nil, modifyList, hget, ok_bind,
        hchange _ _ hlt, setList_block hblock, Node.updateAt]
    | cons step' p =>
      have hmem := n.rawBlock_subset_children field (List.mem_of_getElem? hchild)
      have hrec := ih (hn.of_mem hmem) (List.cons_ne_nil _ _) hrest
      have hlt' : i < ((n.rawBlock field).map Part.node).length := by simpa using hlt
      have hmodify := Node.modify_eq_set (Node.updateAt g · (step' :: p)) hchild
      simp only [Place.path, List.map_cons] at hrec ⊢
      simp only [modifyList, hget, ok_bind, pickFrom_map hchild, hrec, indexIn_of_lt hlt',
        ← List.map_set, setList_block hblock, Node.updateAt, hmodify]

private theorem changes_insertInto (k : Node) :
    Changes (insertInto (.node k)) fun ns i => ns.insertIdx i k := by
  intro ns i hi
  have hlt : i < (ns.map Part.node).length := by simpa using hi
  simp only [insertInto, insertionIndex_of_lt hlt, ok_bind, List.map_insertIdx]
  rfl

private theorem changes_deleteFrom : Changes deleteFrom fun ns i => ns.eraseIdx i := by
  intro ns i hi
  have hlt : i < (ns.map Part.node).length := by simpa using hi
  simp only [deleteFrom, indexIn_of_lt hlt, ok_bind, List.eraseIdx_map]
  rfl

private theorem changes_replaceIn (k : Node) :
    Changes (replaceIn (.node k)) fun ns i => ns.set i k := by
  intro ns i hi
  have hlt : i < (ns.map Part.node).length := by simpa using hi
  simp only [replaceIn, indexIn_of_lt hlt, ok_bind, List.map_set]
  rfl

private theorem replaceAt_place (hn : n.Shaped) (hp : p ≠ []) (h : n.at? p = some m) (k : Node) :
    (Part.node n).replaceAt p.path (.node k) =
      .ok (.node (n.updateAt (fun ns i => ns.set i k) p)) :=
  modifyList_place (changes_replaceIn k) hn hp h

end Part

namespace Node

/-! ## What an update leaves alone -/

private theorem rawBlock_setBlock_subset (n : Node) (field : Field) (ns : List Node) :
    (n.setBlock field ns).rawBlock field ⊆ ns := by
  obtain ⟨l, s, ts, b, o, h, f, c⟩ := n
  cases field <;> simp [setBlock, rawBlock]

theorem mem_children_setBlock (h : m ∈ (n.setBlock field ns).children) :
    m ∈ ns ∨ m ∈ n.children := by
  obtain ⟨other, hm⟩ := mem_children.mp h
  by_cases heq : other = field
  · subst heq
    exact .inl (rawBlock_setBlock_subset n other ns hm)
  · rw [rawBlock_setBlock_of_ne n ns heq] at hm
    exact .inr (n.rawBlock_subset_children other hm)

theorem Framed.setBlock (hn : n.Framed) (h : n.hasBlock field = true ∨ ns = []) :
    (n.setBlock field ns).Framed := by
  intro other hother
  rw [label_setBlock] at hother
  by_cases heq : other = field
  · subst heq
    have hnil : ns = [] := h.resolve_left (mt hasBlock_iff.mp hother)
    exact List.subset_nil.mp (hnil ▸ rawBlock_setBlock_subset n other ns)
  · rw [rawBlock_setBlock_of_ne n ns heq]
    exact hn other hother

private theorem shaped_setBlock (hn : n.Shaped) (h : n.hasBlock field = true)
    (hns : ∀ m ∈ ns, m.Shaped) : (n.setBlock field ns).Shaped := by
  obtain ⟨hplain, hchildren⟩ := shaped_iff.mp hn
  refine shaped_iff.mpr ⟨⟨?_, Framed.setBlock hplain.rawBlock_eq_nil (.inl h)⟩, fun m hm =>
    (mem_children_setBlock hm).elim (hns m) (hchildren m)⟩
  rw [label_setBlock]
  exact hplain.label_ne

theorem shaped_updateAt {g : List Node → Nat → List Node}
    (hg : ∀ ns i, (∀ m ∈ ns, m.Shaped) → ∀ m ∈ g ns i, m.Shaped) (hn : n.Shaped)
    (h : n.at? p = some m) : (n.updateAt g p).Shaped := by
  induction p generalizing n with
  | nil => exact hn
  | cons step p ih =>
    obtain ⟨field, i⟩ := step
    obtain ⟨hblock, child, hchild, hrest⟩ := at?_cons.mp h
    have hall : ∀ m ∈ n.rawBlock field, m.Shaped := fun m hm =>
      hn.of_mem (n.rawBlock_subset_children field hm)
    cases p with
    | nil => exact shaped_setBlock hn hblock (hg _ i hall)
    | cons step' p =>
      refine shaped_setBlock hn hblock fun m hm => ?_
      rw [modify_eq_set _ hchild] at hm
      rcases List.mem_or_eq_of_mem_set hm with hm | rfl
      · exact hall m hm
      · exact ih (hall child (List.mem_of_getElem? hchild)) hrest

theorem updateAt_set_cons {child : Node} (hchild : (n.rawBlock field)[i]? = some child) :
    n.updateAt (fun ns i => ns.set i k) ((field, i) :: p) =
      n.setBlock field ((n.rawBlock field).set i
        (if p = [] then k else child.updateAt (fun ns i => ns.set i k) p)) := by
  cases p with
  | nil => rfl
  | cons step p =>
    rw [if_neg (List.cons_ne_nil step p)]
    exact congrArg (n.setBlock field) (modify_eq_set _ hchild)

private theorem label_updateAt (change : List Node → Nat → List Node) (n : Node) (p : Place) :
    (n.updateAt change p).label = n.label := by
  unfold updateAt
  split
  · rfl
  · exact label_setBlock _ _ _
  · exact label_setBlock _ _ _

/-- Replacing a node leaves the labels of the nodes at other places as they are. -/
theorem exists_at?_updateAt_set {holder : Node} (h : n.at? p = some m)
    (hq : n.at? q = some holder) (hpq : ¬ p <+: q) :
    ∃ holder', (n.updateAt (fun ns i => ns.set i k) p).at? q = some holder' ∧
      holder'.label = holder.label := by
  induction p generalizing n q with
  | nil => exact absurd List.nil_prefix hpq
  | cons step p ih =>
    cases q with
    | nil =>
      obtain rfl := Option.some.inj hq
      exact ⟨_, rfl, label_updateAt _ _ _⟩
    | cons step' q =>
      obtain ⟨field, i⟩ := step
      obtain ⟨field', j⟩ := step'
      obtain ⟨hblock, child, hchild, hrest⟩ := at?_cons.mp h
      obtain ⟨hblock', child', hchild', hrest'⟩ := at?_cons.mp hq
      rw [updateAt_set_cons hchild, at?, hasBlock, label_setBlock, ← hasBlock, if_pos hblock']
      by_cases hfield : field' = field
      · subst hfield
        rw [rawBlock_setBlock_self _ hblock]
        by_cases hij : i = j
        · subst hij
          have hpq' : ¬ p <+: q := fun hpre => hpq (List.cons_prefix_cons.mpr ⟨rfl, hpre⟩)
          have hne : p ≠ [] := by
            rintro rfl
            exact hpq' List.nil_prefix
          obtain rfl : child = child' := Option.some.inj (hchild.symm.trans hchild')
          rw [if_neg hne, List.getElem?_set_self (List.getElem?_eq_some_iff.mp hchild).1,
            Option.bind_some]
          exact ih hrest hrest' hpq'
        · rw [List.getElem?_set_ne hij, hchild', Option.bind_some]
          exact ⟨holder, hrest', rfl⟩
      · rw [rawBlock_setBlock_of_ne _ _ hfield, hchild', Option.bind_some]
        exact ⟨holder, hrest', rfl⟩

/-- Replacing a node leaves the nodes at places that are neither above nor below as they are. -/
theorem at?_updateAt_set (h : n.at? p = some m) (hpq : ¬ p <+: q) (hqp : ¬ q <+: p) :
    (n.updateAt (fun ns i => ns.set i k) p).at? q = n.at? q := by
  induction p generalizing n q with
  | nil => exact absurd List.nil_prefix hpq
  | cons step p ih =>
    cases q with
    | nil => exact absurd List.nil_prefix hqp
    | cons step' q =>
      obtain ⟨field, i⟩ := step
      obtain ⟨field', j⟩ := step'
      obtain ⟨hblock, child, hchild, hrest⟩ := at?_cons.mp h
      rw [updateAt_set_cons hchild, at?, at?, hasBlock, label_setBlock, ← hasBlock]
      by_cases hfield : field' = field
      · subst hfield
        rw [rawBlock_setBlock_self _ hblock]
        by_cases hij : i = j
        · subst hij
          have hpq' : ¬ p <+: q := fun hpre => hpq (List.cons_prefix_cons.mpr ⟨rfl, hpre⟩)
          have hqp' : ¬ q <+: p := fun hpre => hqp (List.cons_prefix_cons.mpr ⟨rfl, hpre⟩)
          have hne : p ≠ [] := by
            rintro rfl
            exact hpq' List.nil_prefix
          have hlt := (List.getElem?_eq_some_iff.mp hchild).1
          rw [if_neg hne, List.getElem?_set_self hlt, hchild, Option.bind_some, Option.bind_some,
            ih hrest hpq' hqp']
        · rw [List.getElem?_set_ne hij]
      · rw [rawBlock_setBlock_of_ne _ _ hfield]

/-- A swap of two places replaces nodes: one if either place lies below the other, else both. -/
theorem swapAt_place (hn : n.Shaped) (hp : p ≠ []) (hm : n.at? p = some m) (hq : q ≠ [])
    (hk : n.at? q = some k) :
    (Part.node n).swapAt (Place.path p) (Place.path q) = .ok (.node
      (if p.isPrefixOf q then n.updateAt (fun ns i => ns.set i k) p
      else if q.isPrefixOf p then n.updateAt (fun ns i => ns.set i m) q
      else (n.updateAt (fun ns i => ns.set i k) p).updateAt (fun ns i => ns.set i m) q)) := by
  obtain ⟨ns, i, hlocate, hi⟩ := Part.locate_place hn hp hm
  obtain ⟨ms, j, hlocate', hj⟩ := Part.locate_place hn hq hk
  have hreplace := Part.replaceAt_place hn hp hm k
  have hreplace' := Part.replaceAt_place hn hq hk m
  unfold Part.swapAt
  simp only [hlocate, hlocate', ok_bind, Part.pick, Part.pickFrom_map hi, Part.pickFrom_map hj,
    Part.checkList, pure_bind, Part.resolve_place hn hm, Part.resolve_place hn hk]
  by_cases hpq : p.isPrefixOf q = true
  · rw [if_pos hpq, if_pos hpq, hreplace]
  by_cases hqp : q.isPrefixOf p = true
  · rw [if_neg hpq, if_pos hqp, if_neg hpq, if_pos hqp, hreplace']
  · have hall : ∀ (ns : List Node) (i : Nat), (∀ m ∈ ns, m.Shaped) →
        ∀ m ∈ ns.set i k, m.Shaped := by
      intro ns i hns m hm
      rcases List.mem_or_eq_of_mem_set hm with hm | rfl
      · exact hns m hm
      · exact hn.within (within_of_at? hk)
    have hafter : (n.updateAt (fun ns i => ns.set i k) p).at? q = some k := by
      rw [at?_updateAt_set hm (mt List.isPrefixOf_iff_prefix.mpr hpq)
        (mt List.isPrefixOf_iff_prefix.mpr hqp), hk]
    rw [if_neg hpq, if_neg hqp, if_neg hpq, if_neg hqp, hreplace, ok_bind,
      Part.replaceAt_place (shaped_updateAt hall hn hm) hq hafter m]

/-! ## Edits as splices -/

variable {new : List Node} {target donor : Statement}

/-- The module with the node at a place replaced by a list of nodes. -/
def splice (n : Node) (p : Place) (new : List Node) : Node :=
  n.updateAt (fun ns i => ns.take i ++ new ++ ns.drop (i + 1)) p

theorem splice_step (n : Node) (field : Field) (i : Nat) (new : List Node) :
    n.splice [(field, i)] new = n.setBlock field
      ((n.rawBlock field).take i ++ new ++ (n.rawBlock field).drop (i + 1)) :=
  rfl

private theorem updateAt_congr {g g' : List Node → Nat → List Node} (h : n.at? p = some m)
    (hg : ∀ ns i, ns[i]? = some m → g ns i = g' ns i) : n.updateAt g p = n.updateAt g' p := by
  induction p generalizing n with
  | nil => rfl
  | cons step p ih =>
    obtain ⟨field, i⟩ := step
    obtain ⟨-, child, hchild, hrest⟩ := at?_cons.mp h
    cases p with
    | nil =>
      obtain rfl := Option.some.inj hrest
      rw [updateAt, updateAt, hg _ _ hchild]
    | cons step' p =>
      simp only [updateAt, modify_eq_set _ hchild, ih hrest]

theorem take_append_cons_drop {ns : List Node} {i : Nat} (h : ns[i]? = some m) :
    ns.take i ++ m :: ns.drop (i + 1) = ns := by
  have hdrop : ns.drop i = m :: ns.drop (i + 1) := by
    rw [List.drop_eq_getElem?_toList_append, h]
    rfl
  rw [← hdrop, List.take_append_drop]

private theorem insertIdx_of_getElem? {ns : List Node} {i : Nat} (h : ns[i]? = some m) (k : Node) :
    ns.insertIdx i k = ns.take i ++ [k, m] ++ ns.drop (i + 1) := by
  induction ns generalizing i with
  | nil => cases h
  | cons l ns ih =>
    cases i with
    | zero =>
      obtain rfl := Option.some.inj h
      rfl
    | succ i => simpa using ih h

private theorem updateAt_insertIdx (h : n.at? p = some m) (k : Node) :
    n.updateAt (fun ns i => ns.insertIdx i k) p = n.splice p [k, m] :=
  updateAt_congr h fun _ _ hi => insertIdx_of_getElem? hi k

private theorem updateAt_eraseIdx (n : Node) (p : Place) :
    n.updateAt (fun ns i => ns.eraseIdx i) p = n.splice p [] := by
  simp only [splice, List.eraseIdx_eq_take_drop_succ, List.append_nil]

theorem updateAt_set (h : n.at? p = some m) (k : Node) :
    n.updateAt (fun ns i => ns.set i k) p = n.splice p [k] := by
  refine updateAt_congr h fun ns i hi => ?_
  rw [List.set_eq_take_append_cons_drop, if_pos (List.getElem?_eq_some_iff.mp hi).1]
  simp

/-- Nothing lies below a node without blocks. -/
theorem eq_of_prefix (h : n.at? p = some m) (hm : m.label.fields = []) (hq : n.at? q = some k)
    (hpq : p <+: q) : p = q := by
  obtain ⟨rest, rfl⟩ := hpq
  rw [at?_append, h, Option.bind_some] at hq
  cases rest with
  | nil => rw [List.append_nil]
  | cons step rest =>
    obtain ⟨hblock, -⟩ := at?_cons.mp hq
    simp [hasBlock, hm] at hblock

/-! ## The edits -/

theorem delete_eq (hn : n.Shaped) (hp : p ≠ []) (hpath : target.path = Place.path p)
    (hm : n.at? p = some m) : n.delete target = .ok (n.splice p []).tidy := by
  rw [delete, hpath, Part.modifyList_place Part.changes_deleteFrom hn hp hm, updateAt_eraseIdx]
  rfl

theorem insert_eq (hn : n.Shaped) (hp : p ≠ []) (hpath : target.path = Place.path p)
    (hm : n.at? p = some m) (hq : q ≠ []) (hpath' : donor.path = Place.path q)
    (hk : n.at? q = some k) : n.insert target donor = .ok (n.splice p [k, m]).tidy := by
  have hdonation : n.follow donor.path = .ok (.node k) := by
    rw [hpath']
    exact Part.follow_place hn hq hk
  have hmodify := Part.modifyList_place (Part.changes_insertInto k) hn hp hm
  rw [updateAt_insertIdx hm] at hmodify
  rw [insert, hdonation, hpath, ok_bind, hmodify]
  rfl

/-- A swap of nodes of which neither lies below the other replaces both. -/
theorem swap_eq (hn : n.Shaped) (hp : p ≠ []) (hpath : target.path = Place.path p)
    (hm : n.at? p = some m) (hq : q ≠ []) (hpath' : donor.path = Place.path q)
    (hk : n.at? q = some k) (hpq : ¬ p <+: q) (hqp : ¬ q <+: p) :
    n.swap target donor = .ok ((n.splice p [k]).splice q [m]).tidy := by
  have hafter : (n.updateAt (fun ns i => ns.set i k) p).at? q = some k := by
    rw [at?_updateAt_set hm hpq hqp, hk]
  have hswap := swapAt_place hn hp hm hq hk
  rw [if_neg (mt List.isPrefixOf_iff_prefix.mp hpq), if_neg (mt List.isPrefixOf_iff_prefix.mp hqp),
    updateAt_set hafter, updateAt_set hm] at hswap
  rw [swap, hpath, hpath', hswap]
  rfl

theorem exchange_eq {other : Node} (hn : n.Shaped) (hother : other.Shaped) (hp : p ≠ [])
    (hpath : target.path = Place.path p) (hm : n.at? p = some m) (hq : q ≠ [])
    (hpath' : donor.path = Place.path q) (hk : other.at? q = some k) :
    n.exchange other target donor = .ok ((n.splice p [k]).tidy, (other.splice q [m]).tidy) := by
  obtain ⟨ns, i, hlocate, hi⟩ := Part.locate_place hn hp hm
  obtain ⟨ms, j, hlocate', hj⟩ := Part.locate_place hother hq hk
  simp only [exchange, hpath, hpath', hlocate, hlocate', ok_bind, Part.pick, Part.pickFrom_map hi,
    Part.pickFrom_map hj, Part.checkList, Part.replaceAt_place hn hp hm,
    Part.replaceAt_place hother hq hk, updateAt_set hm, updateAt_set hk]
  rfl

end Node

end GeneticRepair.Code
