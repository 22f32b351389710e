import GeneticRepair.Proofs.Code.Levels
import Mathlib.Data.List.Nodup

/-!
# Addresses

No two operations of a module have the same address. So when the operator at an address is replaced,
one operation changes, and the others stay what and where they are.
-/

namespace GeneticRepair.Code

variable {step step' : TreeStep} {address : Address} {x y : Operation} {position index i : Nat}
  {op : Operator} {xs ys : List (List Operation)}

/-! ## Levels -/

private theorem mem_mergeLevels :
    x ∈ (mergeLevels xs ys).flatten ↔ x ∈ xs.flatten ∨ x ∈ ys.flatten := by
  rw [(flatten_mergeLevels_perm xs ys).mem_iff, List.mem_append]

private theorem flatten_levelsUnder (step : TreeStep) (xs : List (List Operation)) :
    (levelsUnder step xs).flatten = xs.flatten.map (Operation.under step) := by
  rw [levelsUnder, List.map_flatten]

private theorem mem_joinLevels {α : Type} {step : Nat → TreeStep}
    {levels : α → List (List Operation)}
    {members : List α} : x ∈ (joinLevels step levels index members).flatten ↔
      ∃ i m, members[i]? = some m ∧ ∃ y ∈ (levels m).flatten, x = y.under (step (index + i)) := by
  induction members generalizing index with
  | nil => simp [joinLevels]
  | cons m members ih =>
    rw [joinLevels, mem_mergeLevels, flatten_levelsUnder, List.mem_map, ih]
    constructor
    · rintro (⟨y, hy, rfl⟩ | ⟨i, k, hk, y, hy, rfl⟩)
      · exact ⟨0, m, rfl, y, hy, rfl⟩
      · exact ⟨i + 1, k, hk, y, hy, by rw [Nat.add_assoc, Nat.add_comm 1]⟩
    · rintro ⟨i, k, hk, y, hy, rfl⟩
      cases i with
      | zero =>
        obtain rfl := Option.some.inj hk
        exact .inl ⟨y, hy, rfl⟩
      | succ i => exact .inr ⟨i, k, hk, y, hy, by rw [Nat.add_assoc, Nat.add_comm 1]⟩

/-- No two operations on these levels have the same address. -/
def Distinct (xs : List (List Operation)) : Prop :=
  (xs.flatten.map Operation.address).Nodup

private theorem distinct_mergeLevels (hxs : Distinct xs) (hys : Distinct ys)
    (h : ∀ x ∈ xs.flatten, ∀ y ∈ ys.flatten, x.address ≠ y.address) :
    Distinct (mergeLevels xs ys) := by
  rw [Distinct, ((flatten_mergeLevels_perm xs ys).map _).nodup_iff, List.map_append,
    List.nodup_append]
  refine ⟨hxs, hys, ?_⟩
  simpa only [List.forall_mem_map] using h

private theorem distinct_levelsUnder (h : Distinct xs) : Distinct (levelsUnder step xs) := by
  rw [Distinct, flatten_levelsUnder, List.map_map]
  have hcons : (xs.flatten.map Operation.address).map (step :: ·) =
      xs.flatten.map (Operation.address ∘ Operation.under step) := by
    rw [List.map_map]
    rfl
  rw [← hcons]
  exact List.Nodup.map (fun _ _ h => (List.cons.inj h).2) h

private theorem distinct_joinLevels {α : Type} {step : Nat → TreeStep}
    {levels : α → List (List Operation)} {members : List α}
    (hstep : ∀ i j, step i = step j → i = j) (h : ∀ m ∈ members, Distinct (levels m)) :
    Distinct (joinLevels step levels index members) := by
  induction members generalizing index with
  | nil => exact List.nodup_nil
  | cons m members ih =>
    obtain ⟨hm, hmembers⟩ := List.forall_mem_cons.mp h
    refine distinct_mergeLevels (distinct_levelsUnder hm) (ih hmembers) fun x hx y hy heq => ?_
    rw [flatten_levelsUnder, List.mem_map] at hx
    obtain ⟨x, -, rfl⟩ := hx
    obtain ⟨i, _, _, y, _, rfl⟩ := mem_joinLevels.mp hy
    have hindex := hstep _ _ (List.cons.inj heq).1
    omega

private theorem TreeStep.term_inj (i j : Nat) (h : TreeStep.term i = .term j) : i = j :=
  TreeStep.term.inj h

private theorem TreeStep.block_inj (field : Field) (i j : Nat)
    (h : TreeStep.block field i = .block field j) : i = j :=
  (TreeStep.block.inj h).2

/-! ## Operations of terms -/

namespace Term

variable {head : Head} {line : Nat} {ts : List Term} {t : Term}

private theorem levels_node : (node head line ts).levels =
    head.operators?.toList.map (⟨[], line, ·⟩) :: joinLevels .term levels 0 ts := by
  rw [levels, termLevels_eq]
  cases head.operators? <;> rfl

theorem mem_levels : x ∈ (node head line ts).levels.flatten ↔
    head.operators? = some x.operators ∧ x.address = [] ∧ x.line = line ∨
      ∃ (i : Nat) (t : Term), ts[i]? = some t ∧
        ∃ y ∈ t.levels.flatten, x = y.under (.term i) := by
  rw [levels_node, List.flatten_cons, List.mem_append, mem_joinLevels]
  simp only [Nat.zero_add]
  refine or_congr_left ?_
  obtain ⟨address, line', operators⟩ := x
  cases head.operators? with
  | none => simp
  | some ops => simp; grind

private theorem distinct_levels (t : Term) : Distinct t.levels := by
  induction t using children_induction with
  | step t ih =>
    obtain ⟨head, line, ts⟩ := t
    have hbelow : Distinct (joinLevels .term levels 0 ts) :=
      distinct_joinLevels TreeStep.term_inj ih
    rw [levels_node]
    cases head.operators? with
    | none => exact hbelow
    | some ops =>
      refine List.nodup_cons.mpr ⟨fun hmem => ?_, hbelow⟩
      obtain ⟨x, hx, haddress⟩ := List.mem_map.mp hmem
      obtain ⟨i, u, _, y, _, rfl⟩ := mem_joinLevels.mp hx
      cases haddress

end Term

/-! ## Operations of nodes -/

namespace Node

variable {n m : Node}

private theorem flatten_levels_perm (hl : n.label ≠ .loose) : n.levels.flatten.Perm
    ((joinLevels .term Term.levels 0 n.terms).flatten ++
      visited.flatMap fun field => (n.blockLevels field).flatten) := by
  have hfoldr : ∀ (fields : List Field) (rest : List (List Operation)),
      (fields.foldr (fun field => mergeLevels (n.blockLevels field)) rest).flatten.Perm
        (rest.flatten ++ fields.flatMap fun field => (n.blockLevels field).flatten) := by
    intro fields rest
    induction fields with
    | nil => simp
    | cons field fields ih =>
      rw [List.foldr_cons, List.flatMap_cons]
      refine (flatten_mergeLevels_perm _ _).trans ((ih.append_left _).trans ?_)
      exact List.perm_append_comm_assoc _ _ _
  rw [levels_eq hl]
  generalize n.label.leadingTerms n.terms = leading
  rw [List.flatten_cons, List.nil_append]
  refine (flatten_mergeLevels_perm _ _).trans (((hfoldr _ _).append_left _).trans ?_)
  rw [← List.append_assoc]
  refine List.Perm.append_right _ ((flatten_mergeLevels_perm _ _).symm.trans (.of_eq ?_))
  have hjoin := joinLevels_append .term Term.levels 0 (n.terms.take leading) (n.terms.drop leading)
  rw [List.take_append_drop, List.length_take, Nat.zero_add] at hjoin
  rw [hjoin]

private theorem mem_visited_of_getElem? {field : Field} (h : (n.rawBlock field)[i]? = some m) :
    field ∈ visited := by
  cases n
  cases field <;> first | decide | cases h

theorem mem_levels (hl : n.label ≠ .loose) : x ∈ n.levels.flatten ↔
    (∃ (i : Nat) (t : Term), n.terms[i]? = some t ∧
      ∃ y ∈ t.levels.flatten, x = y.under (.term i)) ∨
    ∃ (field : Field) (i : Nat) (m : Node), (n.rawBlock field)[i]? = some m ∧
      ∃ y ∈ m.levels.flatten, x = y.under (.block field i) := by
  rw [(flatten_levels_perm hl).mem_iff, List.mem_append, mem_joinLevels, List.mem_flatMap]
  simp only [blockLevels, mem_joinLevels, Nat.zero_add]
  refine or_congr_right ⟨fun hblock => ?_, fun hblock => ?_⟩
  · obtain ⟨field, -, h⟩ := hblock
    exact ⟨field, h⟩
  · obtain ⟨field, i, m, hm, h⟩ := hblock
    exact ⟨field, mem_visited_of_getElem? hm, i, m, hm, h⟩

private theorem distinct_levels (hn : n.Shaped) : Distinct n.levels := by
  induction n using children_induction with
  | step n ih =>
    obtain ⟨hplain, hbelow⟩ := shaped_iff.mp hn
    have hblock : ∀ field, Distinct (n.blockLevels field) :=
      fun field => distinct_joinLevels (TreeStep.block_inj field) fun m hm =>
        have hm := n.rawBlock_subset_children field hm
        ih m hm (hbelow m hm)
    have hterms : Distinct (joinLevels .term Term.levels 0 n.terms) :=
      distinct_joinLevels TreeStep.term_inj fun t _ => t.distinct_levels
    rw [Distinct, ((flatten_levels_perm hplain.label_ne).map _).nodup_iff, List.map_append,
      List.map_flatMap, List.nodup_append]
    refine ⟨hterms, List.nodup_flatMap.mpr ⟨fun field _ => hblock field, ?_⟩, ?_⟩
    · have hne : visited.Pairwise (· ≠ ·) := by decide
      refine hne.imp fun {field other} hne address hmem hmem' => ?_
      obtain ⟨x, hx, rfl⟩ := List.mem_map.mp hmem
      obtain ⟨y, hy, heq⟩ := List.mem_map.mp hmem'
      obtain ⟨_, _, _, x, _, rfl⟩ := mem_joinLevels.mp hx
      obtain ⟨_, _, _, y, _, rfl⟩ := mem_joinLevels.mp hy
      exact hne (TreeStep.block.inj (List.cons.inj heq).1).1.symm
    · intro address hmem address' hmem' heq
      obtain ⟨x, hx, rfl⟩ := List.mem_map.mp hmem
      obtain ⟨field, -, hmem'⟩ := List.mem_flatMap.mp hmem'
      obtain ⟨y, hy, rfl⟩ := List.mem_map.mp hmem'
      obtain ⟨_, _, _, x, _, rfl⟩ := mem_joinLevels.mp hx
      obtain ⟨_, _, _, y, _, rfl⟩ := mem_joinLevels.mp hy
      cases (List.cons.inj heq).1

end Node

/-! ## Replacing an operator -/

/-- The operation with an operator replaced, if it is the one that has the address. -/
def Operation.setAt (position : Nat) (op : Operator) (address : Address) (x : Operation) :
    Operation :=
  if x.address = address then { x with operators := x.operators.set position op } else x

def setLevels (position : Nat) (op : Operator) (address : Address) (xs : List (List Operation)) :
    List (List Operation) :=
  xs.map (·.map (Operation.setAt position op address))

private theorem setLevels_mergeLevels (xs ys : List (List Operation)) :
    setLevels position op address (mergeLevels xs ys) =
      mergeLevels (setLevels position op address xs) (setLevels position op address ys) :=
  map_mergeLevels _ xs ys

private theorem setLevels_eq_self (h : ∀ x ∈ xs.flatten, x.address ≠ address) :
    setLevels position op address xs = xs := by
  have hlevel : ∀ level ∈ xs, level.map (Operation.setAt position op address) = level := by
    intro level hlevel
    have hmap : ∀ x ∈ level, Operation.setAt position op address x = x := fun x hx =>
      if_neg (h x (List.mem_flatten.mpr ⟨level, hlevel, hx⟩))
    rw [List.map_congr_left hmap, List.map_id']
  rw [setLevels, List.map_congr_left hlevel, List.map_id']

private theorem setLevels_levelsUnder (xs : List (List Operation)) :
    setLevels position op (step :: address) (levelsUnder step xs) =
      levelsUnder step (setLevels position op address xs) := by
  have hunder : ∀ x : Operation, (x.under step).setAt position op (step :: address) =
      (x.setAt position op address).under step := by
    intro x
    by_cases h : x.address = address
    · simp [Operation.setAt, Operation.under, h]
    · simp [Operation.setAt, Operation.under, h]
  simp [setLevels, levelsUnder, hunder]

private theorem setLevels_joinLevels_of_ne {α : Type} {step : Nat → TreeStep}
    {levels : α → List (List Operation)} {members : List α}
    (h : ∀ i < members.length, step (index + i) ≠ step') :
    setLevels position op (step' :: address) (joinLevels step levels index members) =
      joinLevels step levels index members := by
  refine setLevels_eq_self fun x hx heq => ?_
  obtain ⟨i, m, hm, x, _, rfl⟩ := mem_joinLevels.mp hx
  exact h i (List.getElem?_eq_some_iff.mp hm).1 (List.cons.inj heq).1

private theorem joinLevels_modify {α : Type} {step : Nat → TreeStep}
    {levels : α → List (List Operation)}
    {members : List α} {f : α → α} (hstep : ∀ i j, step i = step j → i = j) (index : Nat)
    (h : ∀ m, members[i]? = some m → levels (f m) = setLevels position op address (levels m)) :
    joinLevels step levels index (members.modify i f) =
      setLevels position op (step (index + i) :: address)
        (joinLevels step levels index members) := by
  induction members generalizing index i with
  | nil =>
    rw [List.modify_nil]
    rfl
  | cons m members ih =>
    cases i with
    | zero =>
      have hrest : setLevels position op (step index :: address)
          (joinLevels step levels (index + 1) members) =
            joinLevels step levels (index + 1) members := by
        refine setLevels_joinLevels_of_ne fun j _ heq => ?_
        have hindex := hstep _ _ heq
        omega
      rw [List.modify_zero_cons, joinLevels, joinLevels, setLevels_mergeLevels, Nat.add_zero index,
        setLevels_levelsUnder, h m rfl, hrest]
    | succ i =>
      rw [List.modify_succ_cons, joinLevels, joinLevels, setLevels_mergeLevels, setLevels_eq_self]
      · rw [ih _ h, Nat.add_assoc, Nat.add_comm 1]
      · intro x hx heq
        rw [flatten_levelsUnder, List.mem_map] at hx
        obtain ⟨x, -, rfl⟩ := hx
        have hindex := hstep _ _ (List.cons.inj heq).1
        omega

private theorem Head.setOperator_of_operators?_eq_none {head : Head} (h : head.operators? = none) :
    head.setOperator position op = head := by
  cases head <;> first | rfl | cases h

private theorem Head.operators?_setOperator {head : Head} {ops : List Operator}
    (h : head.operators? = some ops) (hposition : position < ops.length) :
    (head.setOperator position op).operators? = some (ops.set position op) := by
  cases head with
  | binary old =>
    cases h
    obtain rfl : position = 0 := by simpa using hposition
    rfl
  | connective old =>
    cases h
    obtain rfl : position = 0 := by simpa using hposition
    rfl
  | comparison old =>
    cases h
    rfl
  | _ => cases h

private theorem Term.levels_setOperator (t : Term)
    (h : ∀ x ∈ t.levels.flatten, x.address = address →
    position < x.operators.length) :
    (t.setOperator position op address).levels = setLevels position op address t.levels := by
  induction address generalizing t with
  | nil =>
    obtain ⟨head, line, ts⟩ := t
    have hbelow : setLevels position op [] (joinLevels .term levels 0 ts) =
        joinLevels .term levels 0 ts := by
      refine setLevels_eq_self fun x hx heq => ?_
      obtain ⟨_, _, _, x, _, rfl⟩ := mem_joinLevels.mp hx
      cases heq
    rw [setOperator, levels_node, levels_node, setLevels, List.map_cons, ← setLevels, hbelow]
    cases hops : head.operators? with
    | none =>
      rw [Head.setOperator_of_operators?_eq_none hops, hops]
      rfl
    | some ops =>
      have hposition : position < ops.length :=
        h ⟨[], line, ops⟩ (mem_levels.mpr (.inl ⟨hops, rfl, rfl⟩)) rfl
      rw [Head.operators?_setOperator hops hposition]
      rfl
  | cons step address ih =>
    obtain ⟨head, line, ts⟩ := t
    have hroot : (head.operators?.toList.map (⟨[], line, ·⟩)).map
        (Operation.setAt position op (step :: address)) =
          head.operators?.toList.map (⟨[], line, ·⟩) := by
      rw [List.map_map]
      rfl
    cases step with
    | term i =>
      have hchild : ∀ t, ts[i]? = some t →
          (t.setOperator position op address).levels = setLevels position op address t.levels :=
        fun t ht => ih t fun x hx heq => h (x.under (.term i))
          (mem_levels.mpr (.inr ⟨i, t, ht, x, hx, rfl⟩)) (by rw [← heq]; rfl)
      have hjoin := joinLevels_modify TreeStep.term_inj 0 hchild
      rw [Nat.zero_add] at hjoin
      rw [setOperator, levels_node, levels_node, setLevels, List.map_cons, hroot, hjoin, setLevels]
    | block field i =>
      rw [setOperator, setLevels_eq_self]
      intro x hx heq
      rcases mem_levels.mp hx with ⟨-, haddress, -⟩ | ⟨_, _, _, x, _, rfl⟩
      · rw [heq] at haddress
        cases haddress
      · cases heq

namespace Node

variable {n : Node}

private theorem setOperator_term (n : Node) (i : Nat) :
    n.setOperator position op (.term i :: address) =
    .mk n.label n.span (n.terms.modify i (Term.setOperator position op address))
      (n.rawBlock .body) (n.rawBlock .orelse) (n.rawBlock .handlers) (n.rawBlock .finalbody)
      (n.rawBlock .cases) := by
  cases n
  rw [setOperator]
  rfl

theorem setOperator_block (n : Node) (field : Field) (i : Nat) :
    n.setOperator position op (.block field i :: address) =
      n.setBlock field ((n.rawBlock field).modify i (setOperator position op address)) := by
  cases n
  rw [setOperator]

private theorem rawBlock_setBlock_modify (n : Node) (field : Field) (i : Nat) (f : Node → Node) :
    (n.setBlock field ((n.rawBlock field).modify i f)).rawBlock field =
      (n.rawBlock field).modify i f := by
  cases n
  cases field with
  | other name => exact (List.modify_nil f i).symm
  | nameless => exact (List.modify_nil f i).symm
  | _ => rfl

private theorem label_setOperator (n : Node) :
    (n.setOperator position op address).label = n.label := by
  cases address with
  | nil => rw [setOperator]
  | cons step address =>
    cases step with
    | term i => rw [setOperator_term, label_mk]
    | block field i => rw [setOperator_block, label_setBlock]

private theorem leadingTerms_modify (l : Label) (ts : List Term) (f : Term → Term) :
    l.leadingTerms (ts.modify i f) = l.leadingTerms ts := by
  cases l <;> simp [Label.leadingTerms, List.length_modify]

private theorem joinLevels_terms_modify {ts : List Term} (h : ∀ t, ts[i]? = some t →
    (t.setOperator position op address).levels = setLevels position op address t.levels)
    (leading : Nat) :
    joinLevels .term Term.levels 0
        ((ts.modify i (Term.setOperator position op address)).take leading) =
      setLevels position op (.term i :: address)
        (joinLevels .term Term.levels 0 (ts.take leading)) ∧
    joinLevels .term Term.levels (min leading ts.length)
        ((ts.modify i (Term.setOperator position op address)).drop leading) =
      setLevels position op (.term i :: address)
        (joinLevels .term Term.levels (min leading ts.length) (ts.drop leading)) := by
  constructor
  · have htake : ∀ t, (ts.take leading)[i]? = some t → ts[i]? = some t := by
      intro t ht
      rw [List.getElem?_take] at ht
      split at ht
      · exact ht
      · cases ht
    have hjoin := joinLevels_modify TreeStep.term_inj 0 fun t ht => h t (htake t ht)
    rw [List.take_modify, hjoin, Nat.zero_add]
  · by_cases hi : i < leading
    · rw [List.drop_modify_of_lt _ _ _ _ hi, setLevels_joinLevels_of_ne]
      intro j hj heq
      have hindex := TreeStep.term.inj heq
      rw [List.length_drop] at hj
      omega
    · rw [List.drop_modify_of_ge _ _ _ _ (Nat.le_of_not_lt hi)]
      by_cases hlength : leading ≤ ts.length
      · have hdrop : ∀ t, (ts.drop leading)[i - leading]? = some t → ts[i]? = some t := by
          intro t ht
          rwa [List.getElem?_drop, Nat.add_sub_cancel' (Nat.le_of_not_lt hi)] at ht
        have hjoin := joinLevels_modify TreeStep.term_inj leading fun t ht => h t (hdrop t ht)
        rw [Nat.min_eq_left hlength, hjoin, Nat.add_sub_cancel' (Nat.le_of_not_lt hi)]
      · rw [List.drop_of_length_le (Nat.le_of_not_le hlength), List.modify_nil]
        rfl

theorem setLevels_nil_cons (xs : List (List Operation)) :
    setLevels position op address ([] :: xs) = [] :: setLevels position op address xs :=
  rfl

private theorem setLevels_foldr (levels : Field → List (List Operation)) (fields : List Field) :
    setLevels position op address (fields.foldr (fun field => mergeLevels (levels field)) xs) =
      fields.foldr (fun field => mergeLevels (setLevels position op address (levels field)))
        (setLevels position op address xs) := by
  induction fields with
  | nil => rfl
  | cons field fields ih => rw [List.foldr_cons, List.foldr_cons, setLevels_mergeLevels, ih]

private theorem levels_setOperator_term (hl : n.label ≠ .loose) (h : ∀ t, n.terms[i]? = some t →
    (t.setOperator position op address).levels = setLevels position op address t.levels) :
    (n.setOperator position op (.term i :: address)).levels =
      setLevels position op (.term i :: address) n.levels := by
  have hl' : (n.setOperator position op (.term i :: address)).label ≠ .loose := by
    rwa [label_setOperator]
  have hterms : (n.setOperator position op (.term i :: address)).terms =
      n.terms.modify i (Term.setOperator position op address) := by
    rw [setOperator_term, terms_mk]
  obtain ⟨hleading, hrest⟩ := joinLevels_terms_modify h (n.label.leadingTerms n.terms)
  have hblock : ∀ field, setLevels position op (.term i :: address) (n.blockLevels field) =
      (n.setOperator position op (.term i :: address)).blockLevels field := by
    intro field
    rw [blockLevels, setLevels_joinLevels_of_ne (by simp)]
    cases n
    cases field <;> rfl
  rw [levels_eq hl', levels_eq hl]
  simp only [label_setOperator, hterms, leadingTerms_modify, List.length_modify,
    setLevels_nil_cons, setLevels_mergeLevels, setLevels_foldr, hleading, hrest, hblock]

private theorem levels_setOperator_block (hl : n.label ≠ .loose) {field : Field}
    (h : ∀ m, (n.rawBlock field)[i]? = some m →
      (m.setOperator position op address).levels = setLevels position op address m.levels) :
    (n.setOperator position op (.block field i :: address)).levels =
      setLevels position op (.block field i :: address) n.levels := by
  have hl' : (n.setOperator position op (.block field i :: address)).label ≠ .loose := by
    rwa [label_setOperator]
  have hterms : (n.setOperator position op (.block field i :: address)).terms = n.terms := by
    rw [setOperator_block, terms_setBlock]
  have hterm : ∀ index ts, setLevels position op (.block field i :: address)
      (joinLevels .term Term.levels index ts) = joinLevels .term Term.levels index ts :=
    fun index ts => setLevels_joinLevels_of_ne fun _ _ => nofun
  have hblock : ∀ other, setLevels position op (.block field i :: address)
      (n.blockLevels other) =
        (n.setOperator position op (.block field i :: address)).blockLevels other := by
    intro other
    rw [setOperator_block, blockLevels, blockLevels]
    by_cases hother : other = field
    · subst hother
      have hjoin := joinLevels_modify (TreeStep.block_inj other) 0 h
      rw [rawBlock_setBlock_modify, hjoin, Nat.zero_add]
    · rw [rawBlock_setBlock_of_ne _ _ hother, setLevels_joinLevels_of_ne]
      exact fun _ _ heq => hother (TreeStep.block.inj heq).1
  rw [levels_eq hl', levels_eq hl]
  simp only [label_setOperator, hterms, setLevels_nil_cons, setLevels_mergeLevels,
    setLevels_foldr, hterm, hblock]

private theorem levels_setOperator (hn : n.Shaped)
    (h : ∀ x ∈ n.levels.flatten, x.address = address →
    position < x.operators.length) :
    (n.setOperator position op address).levels = setLevels position op address n.levels := by
  induction address generalizing n with
  | nil =>
    rw [setOperator, setLevels_eq_self]
    intro x hx heq
    rcases (mem_levels (shaped_iff.mp hn).1.label_ne).mp hx with
      ⟨_, _, _, x, _, rfl⟩ | ⟨_, _, _, _, x, _, rfl⟩ <;> cases heq
  | cons step address ih =>
    have hl := (shaped_iff.mp hn).1.label_ne
    have hunder : ∀ x : Operation, x.address = address → x.under step ∈ n.levels.flatten →
        position < x.operators.length := fun x heq hx => h (x.under step) hx (by rw [← heq]; rfl)
    cases step with
    | term i =>
      exact levels_setOperator_term hl fun t ht => t.levels_setOperator fun x hx heq =>
        hunder x heq ((mem_levels hl).mpr (.inl ⟨i, t, ht, x, hx, rfl⟩))
    | block field i =>
      exact levels_setOperator_block hl fun m hm =>
        ih (hn.of_mem (n.rawBlock_subset_children field (List.mem_of_getElem? hm)))
          fun x hx heq => hunder x heq ((mem_levels hl).mpr (.inr ⟨field, i, m, hm, x, hx, rfl⟩))

private theorem eq_of_address_eq (hn : n.Shaped) {j : Nat} (hx : n.operations[i]? = some x)
    (hy : n.operations[j]? = some y) (h : y.address = x.address) : i = j := by
  have hlength : i < (n.operations.map Operation.address).length := by
    rw [List.length_map]
    exact (List.getElem?_eq_some_iff.mp hx).1
  refine (List.getElem?_inj hlength (distinct_levels hn)).mp ?_
  rw [List.getElem?_map, List.getElem?_map, hx, hy, Option.map_some, Option.map_some, h]

/-- If the operator of one operation is replaced, the others are what they have been, and where they
have been among all operations. -/
theorem contents_setOperator (hn : n.Shaped) (hx : n.operations[i]? = some x)
    (hposition : position < x.operators.length) :
    (n.setOperator position op x.address).contents =
      n.contents.modify i fun c => (c.1, c.2.set position op) := by
  have hlevels : (n.setOperator position op x.address).levels =
      setLevels position op x.address n.levels := by
    refine levels_setOperator hn fun y hy heq => ?_
    obtain ⟨j, hj⟩ := List.mem_iff_getElem?.mp hy
    obtain rfl := eq_of_address_eq hn hx hj heq
    obtain rfl : x = y := Option.some.inj (hx.symm.trans hj)
    exact hposition
  rw [contents, operations, hlevels, setLevels, ← List.map_flatten, contents, ← operations]
  refine List.ext_getElem? fun j => ?_
  rw [List.getElem?_map, List.getElem?_map, List.getElem?_modify, List.getElem?_map]
  cases hj : n.operations[j]? with
  | none => rfl
  | some y =>
    by_cases hij : i = j
    · subst hij
      obtain rfl : x = y := Option.some.inj (hx.symm.trans hj)
      simp [Operation.setAt, Operation.content]
    · have hne : y.address ≠ x.address := fun heq => hij (eq_of_address_eq hn hx hj heq)
      simp [Operation.setAt, hne, hij]

end Node

end GeneticRepair.Code
