import GeneticRepair.Proofs.Code.Conservation

/-!
# Replacing nodes

What stands at a place can be looked up and replaced, and the two obey the usual laws: what has been
put at a place is found there, what is put there again is put there alone, and what is found there
may be put back. Replacements at places of which neither lies below the other do not interfere.
-/

namespace GeneticRepair.Code.Node

variable {n m k w a b child : Node} {field other : Field} {i j : Nat} {p q : Place}
  {ns ms new : List Node}

/-! ## Blocks -/

theorem setBlock_setBlock (n : Node) (field : Field) (ns ms : List Node) :
    (n.setBlock field ns).setBlock field ms = n.setBlock field ms := by
  cases n
  cases field <;> rfl

private theorem setBlock_comm (h : field ≠ other) (n : Node) (ns ms : List Node) :
    (n.setBlock field ns).setBlock other ms = (n.setBlock other ms).setBlock field ns := by
  cases n
  cases field <;> cases other <;> first | rfl | exact absurd rfl h

theorem hasBlock_setBlock (n : Node) (field other : Field) (ns : List Node) :
    (n.setBlock field ns).hasBlock other = n.hasBlock other := by
  rw [hasBlock, label_setBlock, hasBlock]

/-! ## Replacement at a place -/

def put : Node → Place → Node → Node
  | _, [], k => k
  | n, (field, i) :: p, k => n.setBlock field ((n.rawBlock field).modify i (put · p k))

theorem put_cons (h : (n.rawBlock field)[i]? = some child) (p : Place) (k : Node) :
    n.put ((field, i) :: p) k = n.setBlock field ((n.rawBlock field).set i (child.put p k)) := by
  rw [put, modify_eq_set _ h]

private theorem getElem?_put_cons (hblock : n.hasBlock field = true)
    (h : (n.rawBlock field)[i]? = some child) (p : Place) (k : Node) :
    ((n.put ((field, i) :: p) k).rawBlock field)[i]? = some (child.put p k) := by
  rw [put_cons h, rawBlock_setBlock_self _ hblock,
    List.getElem?_set_self (List.getElem?_eq_some_iff.mp h).1]

private theorem hasBlock_put_cons (h : (n.rawBlock field)[i]? = some child) (p : Place) (k : Node)
    (other : Field) : (n.put ((field, i) :: p) k).hasBlock other = n.hasBlock other := by
  rw [put_cons h, hasBlock_setBlock]

theorem at?_put (h : n.at? p = some w) (k : Node) : (n.put p k).at? p = some k := by
  induction p generalizing n with
  | nil => rfl
  | cons step p ih =>
    obtain ⟨hblock, child, hchild, hrest⟩ := at?_cons.mp h
    refine at?_cons.mpr ⟨?_, child.put p k, getElem?_put_cons hblock hchild p k, ih hrest⟩
    rw [hasBlock_put_cons hchild, hblock]

theorem put_self (h : n.at? p = some w) : n.put p w = n := by
  induction p generalizing n with
  | nil => exact (Option.some.inj h).symm
  | cons step p ih =>
    obtain ⟨-, child, hchild, hrest⟩ := at?_cons.mp h
    obtain ⟨hi, rfl⟩ := List.getElem?_eq_some_iff.mp hchild
    rw [put_cons hchild, ih hrest, List.set_getElem_self hi, setBlock_rawBlock]

theorem put_put (h : n.at? p = some w) (a b : Node) : (n.put p a).put p b = n.put p b := by
  induction p generalizing n with
  | nil => rfl
  | cons step p ih =>
    obtain ⟨hblock, child, hchild, hrest⟩ := at?_cons.mp h
    rw [put_cons (getElem?_put_cons hblock hchild p a), put_cons hchild, put_cons hchild, ih hrest,
      rawBlock_setBlock_self _ hblock, setBlock_setBlock, List.set_set]

theorem put_append (h : n.at? p = some w) (q : Place) (k : Node) :
    n.put (p ++ q) k = n.put p (w.put q k) := by
  induction p generalizing n with
  | nil =>
    obtain rfl := Option.some.inj h
    rfl
  | cons step p ih =>
    obtain ⟨-, child, hchild, hrest⟩ := at?_cons.mp h
    rw [List.cons_append, put_cons hchild, put_cons hchild, ih hrest]

private theorem updateAt_set_eq_put (hp : p ≠ []) (h : n.at? p = some w) (k : Node) :
    n.updateAt (fun ns i => ns.set i k) p = n.put p k := by
  induction p generalizing n with
  | nil => exact absurd rfl hp
  | cons step p ih =>
    obtain ⟨-, child, hchild, hrest⟩ := at?_cons.mp h
    rw [updateAt_set_cons hchild, put_cons hchild]
    by_cases hp : p = []
    · rw [if_pos hp, hp, put]
    · rw [if_neg hp, ih hp hrest]

theorem at?_put_of_apart (h : n.at? p = some w) (hpq : ¬ p <+: q) (hqp : ¬ q <+: p) (k : Node) :
    (n.put p k).at? q = n.at? q := by
  have hp : p ≠ [] := by
    rintro rfl
    exact hpq List.nil_prefix
  rw [← updateAt_set_eq_put hp h, at?_updateAt_set h hpq hqp]

theorem put_comm (h : n.at? p = some w) (h' : n.at? q = some m) (hpq : ¬ p <+: q) (hqp : ¬ q <+: p)
    (a b : Node) : (n.put p a).put q b = (n.put q b).put p a := by
  induction p generalizing n q with
  | nil => exact absurd List.nil_prefix hpq
  | cons step p ih =>
    cases q with
    | nil => exact absurd List.nil_prefix hqp
    | cons step' q =>
      obtain ⟨field, i⟩ := step
      obtain ⟨field', j⟩ := step'
      obtain ⟨hblock, child, hchild, hrest⟩ := at?_cons.mp h
      obtain ⟨hblock', child', hchild', hrest'⟩ := at?_cons.mp h'
      by_cases hfield : field = field'
      · subst hfield
        by_cases hij : i = j
        · subst hij
          obtain rfl : child = child' := Option.some.inj (hchild.symm.trans hchild')
          have hbelow := ih hrest hrest' (fun hpre => hpq (List.cons_prefix_cons.mpr ⟨rfl, hpre⟩))
            fun hpre => hqp (List.cons_prefix_cons.mpr ⟨rfl, hpre⟩)
          rw [put_cons (getElem?_put_cons hblock hchild p a), hbelow,
            put_cons (getElem?_put_cons hblock hchild q b), put_cons hchild, put_cons hchild]
          simp only [rawBlock_setBlock_self _ hblock, setBlock_setBlock, List.set_set]
        · have hj : ((n.put ((field, i) :: p) a).rawBlock field)[j]? = some child' := by
            rw [put_cons hchild, rawBlock_setBlock_self _ hblock, List.getElem?_set_ne hij, hchild']
          have hi : ((n.put ((field, j) :: q) b).rawBlock field)[i]? = some child := by
            rw [put_cons hchild', rawBlock_setBlock_self _ hblock,
              List.getElem?_set_ne (Ne.symm hij), hchild]
          rw [put_cons hj, put_cons hi, put_cons hchild, put_cons hchild']
          simp only [rawBlock_setBlock_self _ hblock, setBlock_setBlock]
          rw [List.set_comm _ _ hij]
      · have hj : ((n.put ((field, i) :: p) a).rawBlock field')[j]? = some child' := by
          rw [put_cons hchild, rawBlock_setBlock_of_ne _ _ (Ne.symm hfield), hchild']
        have hi : ((n.put ((field', j) :: q) b).rawBlock field)[i]? = some child := by
          rw [put_cons hchild', rawBlock_setBlock_of_ne _ _ hfield, hchild]
        rw [put_cons hj, put_cons hi, put_cons hchild, put_cons hchild',
          rawBlock_setBlock_of_ne _ _ (Ne.symm hfield), rawBlock_setBlock_of_ne _ _ hfield,
          setBlock_comm hfield]

/-! ## Splices -/

theorem splice_singleton (hp : p ≠ []) (h : n.at? p = some w) (k : Node) :
    n.splice p [k] = n.put p k := by
  rw [← updateAt_set h, updateAt_set_eq_put hp h]

theorem shaped_put (hn : n.Shaped) (h : n.at? p = some w) (hk : k.Shaped) : (n.put p k).Shaped := by
  by_cases hp : p = []
  · subst hp
    exact hk
  · rw [← splice_singleton hp h]
    exact shaped_splice_singleton hn h hk

/-- A splice changes the block of the node above it. -/
theorem splice_append (h : n.at? p = some w) (field : Field) (i : Nat) (new : List Node) :
    n.splice (p ++ [(field, i)]) new = n.put p (w.splice [(field, i)] new) := by
  induction p generalizing n with
  | nil =>
    obtain rfl := Option.some.inj h
    rfl
  | cons step p ih =>
    obtain ⟨-, child, hchild, hrest⟩ := at?_cons.mp h
    rw [List.cons_append, splice_cons hchild (by simp), ih hrest, put_cons hchild,
      List.set_eq_take_append_cons_drop, if_pos (List.getElem?_eq_some_iff.mp hchild).1,
      List.append_cons]
    rfl

end GeneticRepair.Code.Node
