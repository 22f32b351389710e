import GeneticRepair.Proofs.Code.Address
import GeneticRepair.Proofs.Code.Mask
import GeneticRepair.Proofs.Code.Transformation

/-!
# Replacing operators

To replace an operator changes one site and nothing else. As a module is known by its mask and its
operations, and normal form changes neither otherwise than the mask demands, the replacement can be
taken back.
-/

namespace GeneticRepair.Code

variable {position i : Nat} {old op new : Operator} {address : Address} {x : Operation}

/-! ## Trees that differ in one operator -/

/-- The heads differ in the operator at a position. -/
inductive Head.Reoperated (old new : Operator) : Nat → Head → Head → Prop
  | binary : Reoperated old new 0 (.binary old) (.binary new)
  | connective : Reoperated old new 0 (.connective old) (.connective new)
  | comparison (before after : List Operator) : Reoperated old new before.length
      (.comparison (before ++ old :: after)) (.comparison (before ++ new :: after))

/-- The terms differ in one operator of one expression. -/
inductive Term.Reoperated (old new : Operator) (position : Nat) : Term → Term → Prop
  | head {h k : Head} (line : Nat) (children : List Term)
      (differ : h.Reoperated old new position k) :
      Reoperated old new position (.node h line children) (.node k line children)
  | child {t u : Term} (h : Head) (line : Nat) (before after : List Term)
      (differ : Reoperated old new position t u) :
      Reoperated old new position (.node h line (before ++ t :: after))
        (.node h line (before ++ u :: after))

/-- The nodes differ in one operator of one expression. -/
inductive Node.Reoperated (old new : Operator) (position : Nat) : Node → Node → Prop
  | term {t u : Term} (l : Label) (s : Span) (before after : List Term) (b o h f c : List Node)
      (differ : t.Reoperated old new position u) :
      Reoperated old new position (.mk l s (before ++ t :: after) b o h f c)
        (.mk l s (before ++ u :: after) b o h f c)
  | block {n m k : Node} (field : Field) (before after : List Node)
      (eq : n.rawBlock field = before ++ m :: after) (differ : Reoperated old new position m k) :
      Reoperated old new position n (n.setBlock field (before ++ k :: after))

private theorem exists_modify_eq {α : Type} {xs : List α} {x : α} (h : xs[i]? = some x)
    (f : α → α) :
    ∃ before after, before.length = i ∧ xs = before ++ x :: after ∧
      xs.modify i f = before ++ f x :: after := by
  obtain ⟨hi, rfl⟩ := List.getElem?_eq_some_iff.mp h
  obtain ⟨before, y, after, rfl, rfl, hmodify⟩ := List.exists_of_modify f hi
  refine ⟨before, after, rfl, ?_, ?_⟩
  · simp
  · simpa using hmodify

private theorem Head.reoperated_setOperator {head : Head} {ops : List Operator}
    (hops : head.operators? = some ops) (h : ops[position]? = some old) (new : Operator) :
    head.Reoperated old new position (head.setOperator position new) := by
  have hsingle : ∀ op, ops = [op] → position = 0 ∧ op = old := by
    rintro op rfl
    cases position with
    | zero => exact ⟨rfl, Option.some.inj h⟩
    | succ position => cases h
  cases head with
  | binary op =>
    obtain ⟨rfl, rfl⟩ := hsingle op (Option.some.inj hops).symm
    exact .binary
  | connective op =>
    obtain ⟨rfl, rfl⟩ := hsingle op (Option.some.inj hops).symm
    exact .connective
  | comparison ops' =>
    obtain rfl : ops' = ops := Option.some.inj hops
    obtain ⟨before, after, rfl, heq, hset⟩ := exists_modify_eq h fun _ => new
    rw [setOperator, List.set_eq_modify, hset, heq]
    exact .comparison before after
  | _ => cases hops

private theorem Term.reoperated_setOperator {t : Term} (hx : x ∈ t.levels.flatten)
    (h : x.operators[position]? = some old) (new : Operator) :
    t.Reoperated old new position (t.setOperator position new x.address) := by
  induction t using children_induction generalizing x with
  | step t ih =>
    obtain ⟨head, line, ts⟩ := t
    rcases mem_levels.mp hx with ⟨hops, haddress, -⟩ | ⟨i, t, ht, y, hy, rfl⟩
    · rw [haddress]
      exact .head line ts (Head.reoperated_setOperator hops h new)
    · obtain ⟨before, after, -, heq, hmodify⟩ :=
        exists_modify_eq ht (Term.setOperator position new y.address)
      have hchild := ih t (List.mem_of_getElem? ht) hy h
      rw [Operation.under, setOperator, hmodify, heq]
      exact .child head line before after hchild

/-! ## Masks -/

private theorem map_modify_eq {α β : Type} {f : α → α} {g : α → β} (h : ∀ x, g (f x) = g x)
    (xs : List α)
    (i : Nat) : (xs.modify i f).map g = xs.map g := by
  refine List.ext_getElem? fun j => ?_
  rw [List.getElem?_map, List.getElem?_modify, List.getElem?_map]
  cases xs[j]? with
  | none => rfl
  | some x => by_cases hij : i = j <;> simp [hij, h]

private theorem Term.mask_setOperator (t : Term) :
    (t.setOperator position op address).mask = t.mask := by
  induction address generalizing t with
  | nil =>
    obtain ⟨head, line, ts⟩ := t
    rw [setOperator, mask_node, mask_node, Head.mask_setOperator]
  | cons step address ih =>
    obtain ⟨head, line, ts⟩ := t
    cases step with
    | term i => rw [setOperator, mask_node, mask_node, map_modify_eq ih]
    | block field i => rw [setOperator]

namespace Node

variable {n : Node}

private theorem reoperated_setOperator (hn : n.Shaped) (hx : x ∈ n.operations)
    (h : x.operators[position]? = some old) (new : Operator) :
    n.Reoperated old new position (n.setOperator position new x.address) := by
  induction n using children_induction generalizing x with
  | step n ih =>
    rcases (mem_levels (shaped_iff.mp hn).1.label_ne).mp hx with
      ⟨i, t, ht, y, hy, rfl⟩ | ⟨field, i, m, hm, y, hy, rfl⟩
    · obtain ⟨before, after, -, heq, hmodify⟩ :=
        exists_modify_eq ht (Term.setOperator position new y.address)
      have hterm := Term.reoperated_setOperator hy h new
      obtain ⟨l, s, ts, b, o, hs, f, c⟩ := n
      obtain rfl : ts = before ++ t :: after := heq
      rw [terms_mk] at hmodify
      rw [Operation.under, setOperator, hmodify]
      exact .term l s before after b o hs f c hterm
    · obtain ⟨before, after, -, heq, hmodify⟩ :=
        exists_modify_eq hm (setOperator position new y.address)
      have hmem := n.rawBlock_subset_children field (List.mem_of_getElem? hm)
      rw [Operation.under, setOperator_block, hmodify]
      exact .block field before after heq (ih m hmem (hn.of_mem hmem) hy h)

private theorem mask_setBlock (n : Node) (field : Field) (ns : List Node) :
    (n.setBlock field ns).mask = n.mask.setBlock field (ns.map mask) := by
  cases n
  cases field <;> simp only [setBlock, mask_mk]

private theorem mask_setOperator (n : Node) :
    (n.setOperator position op address).mask = n.mask := by
  induction address generalizing n with
  | nil => rw [setOperator]
  | cons step address ih =>
    cases step with
    | term i =>
      cases n
      rw [setOperator, mask_mk, mask_mk, map_modify_eq Term.mask_setOperator]
    | block field i =>
      rw [setOperator_block, mask_setBlock, map_modify_eq ih, ← rawBlock_mask, setBlock_rawBlock]

private theorem regular_setOperator (hn : n.Regular) :
    (n.setOperator position op address).Regular := by
  rw [← regular_mask, mask_setOperator, regular_mask]
  exact hn

/-! ## Sites -/

/-- The sites of an operation with the given content. -/
def sitesOf (index : Nat) (content : Nat × List Operator) : List OperatorSite :=
  (content.2.zipIdx.filter (·.1.inFamily)).map fun (op, position) =>
    ⟨index, position, content.1, op⟩

def sitesFrom (index : Nat) (contents : List (Nat × List Operator)) : List OperatorSite :=
  (contents.zipIdx index).flatMap fun (content, index) => sitesOf index content

private theorem operatorSites_eq (n : Node) : n.operatorSites = sitesFrom 0 n.contents := by
  rw [operatorSites, sitesFrom, contents, List.zipIdx_map, List.flatMap_map]
  rfl

private theorem exists_operation_of_mem {site : OperatorSite} (h : site ∈ n.operatorSites) :
    ∃ x, n.operations[site.index]? = some x ∧ x.line = site.line ∧
      x.operators[site.position]? = some site.operator ∧ site.operator.inFamily = true := by
  obtain ⟨⟨x, index⟩, hx, hmem⟩ := List.mem_flatMap.mp h
  obtain ⟨⟨operator, position⟩, hop, rfl⟩ := List.mem_map.mp hmem
  obtain ⟨hget, hfamily⟩ := List.mem_filter.mp hop
  exact ⟨x, List.mk_mem_zipIdx_iff_getElem?.mp hx, rfl,
    List.mk_mem_zipIdx_iff_getElem?.mp hget, hfamily⟩

/-- In place of an operator of a family there is always one site, and the sites before and behind it
do not depend on the operator. -/
theorem exists_sitesFrom (before after : List (Nat × List Operator)) (line : Nat)
    (pre post : List Operator) : ∃ front back, ∀ op : Operator, op.inFamily = true →
      sitesFrom 0 (before ++ (line, pre ++ op :: post) :: after) =
        front ++ ⟨before.length, pre.length, line, op⟩ :: back := by
  refine ⟨sitesFrom 0 before ++ sitesOf before.length (line, pre),
    ((post.zipIdx (pre.length + 1)).filter (·.1.inFamily)).map
      (fun (op, position) => ⟨before.length, position, line, op⟩) ++
        sitesFrom (before.length + 1) after, fun op hop => ?_⟩
  simp [sitesFrom, sitesOf, List.zipIdx_append, hop]

/-! ## Replacement at a site -/

private theorem withOperator_eq {site : OperatorSite} (hx : n.operations[site.index]? = some x)
    (op : Operator) :
    n.withOperator site op = (n.setOperator site.position op x.address).tidy := by
  rw [withOperator, hx]

private theorem regular_withOperator (hn : n.Regular) (site : OperatorSite) (op : Operator) :
    (n.withOperator site op).Regular := by
  unfold withOperator
  split
  · exact regular_tidy (regular_setOperator hn)
  · exact regular_tidy hn

private theorem mask_withOperator (n : Node) (site : OperatorSite) (op : Operator) :
    (n.withOperator site op).mask = n.tidy.mask := by
  unfold withOperator
  split
  · rw [mask_tidy, mask_setOperator, mask_tidy]
  · rfl

private theorem contents_withOperator (hn : n.Regular) {site : OperatorSite}
    (hx : n.operations[site.index]? = some x) (hposition : site.position < x.operators.length)
    (op : Operator) : (n.withOperator site op).contents =
      n.contents.modify site.index fun c => (c.1, c.2.set site.position op) := by
  rw [withOperator_eq hx, contents_tidy (regular_setOperator hn),
    contents_setOperator hn.shaped hx hposition]

private theorem getElem?_contents (hx : n.operations[i]? = some x) :
    n.contents[i]? = some x.content := by
  rw [contents, List.getElem?_map, hx, Option.map_some]

private theorem exists_of_getElem?_contents {c : Nat × List Operator}
    (h : n.contents[i]? = some c) :
    ∃ y, n.operations[i]? = some y ∧ y.operators = c.2 := by
  rw [contents, List.getElem?_map, Option.map_eq_some_iff] at h
  obtain ⟨y, hy, rfl⟩ := h
  exact ⟨y, hy, rfl⟩

private theorem exists_withOperator_eq (hn : n.Regular) {site : OperatorSite}
    (hx : n.operations[site.index]? = some x) (hposition : site.position < x.operators.length) :
    ∃ y ∈ n.tidy.operations, y.operators = x.operators ∧ ∀ op,
      n.withOperator site op = n.tidy.setOperator site.position op y.address := by
  have hcontents := contents_tidy hn
  obtain ⟨y, hy, hops⟩ := exists_of_getElem?_contents (hcontents.symm ▸ getElem?_contents hx)
  refine ⟨y, List.mem_of_getElem? hy, hops, fun op => ?_⟩
  refine eq_of_contents_eq (regular_withOperator hn site op)
    (regular_setOperator (regular_tidy hn)) ?_ ?_
  · rw [mask_withOperator, mask_setOperator]
  · rw [contents_withOperator hn hx hposition,
      contents_setOperator (regular_tidy hn).shaped hy (hops ▸ hposition), hcontents]

private theorem withOperator_withOperator (hn : n.Regular) {site site' : OperatorSite}
    (hindex : site'.index = site.index) (hposition : site'.position = site.position)
    (hx : n.operations[site.index]? = some x) (hget : x.operators[site.position]? = some old)
    (op : Operator) : (n.withOperator site op).withOperator site' old = n.tidy := by
  obtain ⟨hlt, hold⟩ := List.getElem?_eq_some_iff.mp hget
  have hback : (x.operators.set site.position op).set site.position old = x.operators := by
    rw [List.set_set, ← hold, List.set_getElem_self]
  have hcontents := contents_withOperator hn hx hlt op
  have hmodified : (n.withOperator site op).contents[site.index]? =
      some (x.line, x.operators.set site.position op) := by
    rw [hcontents, List.getElem?_modify, getElem?_contents hx]
    simp [Operation.content]
  obtain ⟨y, hy, hops⟩ := exists_of_getElem?_contents hmodified
  refine eq_of_contents_eq (regular_withOperator (regular_withOperator hn site op) site' old)
    (regular_tidy hn) ?_ ?_
  · rw [mask_withOperator, mask_tidy, mask_withOperator, ← mask_tidy, tidy_tidy]
  · rw [contents_withOperator (regular_withOperator hn site op) (hindex.symm ▸ hy)
      (by rw [hops, List.length_set, hposition]; exact hlt), hcontents, contents_tidy hn, hindex,
      hposition]
    refine List.ext_getElem? fun j => ?_
    rw [List.getElem?_modify, List.getElem?_modify]
    by_cases hj : site.index = j
    · subst hj
      rw [getElem?_contents hx]
      simp only [Operation.content, Option.map_eq_map, Option.map_some, if_true, hback]
    · cases n.contents[j]? <;> simp [hj]

/-- Of the sites of a module, only the one whose operator is replaced changes, and only its
operator does. -/
theorem exists_operatorSites_withOperator (hn : n.Regular) {site : OperatorSite}
    (hsite : site ∈ n.operatorSites) (hop : op.inFamily = true) :
    ∃ front back, n.operatorSites = front ++ site :: back ∧
      (n.withOperator site op).operatorSites = front ++ { site with operator := op } :: back := by
  obtain ⟨x, hx, hline, hget, hfamily⟩ := exists_operation_of_mem hsite
  obtain ⟨before, after, hbefore, hcontents, hmodify⟩ :=
    exists_modify_eq (getElem?_contents hx) fun c => (c.1, c.2.set site.position op)
  obtain ⟨pre, post, hpre, hops, hset⟩ := exists_modify_eq hget fun _ => op
  rw [← contents_withOperator hn hx (List.getElem?_eq_some_iff.mp hget).1] at hmodify
  obtain ⟨front, back, hsites⟩ := exists_sitesFrom before after x.line pre post
  refine ⟨front, back, ?_, ?_⟩
  · rw [operatorSites_eq, hcontents, Operation.content, hops, hsites _ hfamily, hbefore, hpre,
      hline]
  · rw [operatorSites_eq, hmodify, Operation.content, List.set_eq_modify, hset, hsites _ hop,
      hbefore, hpre, hline]

/-- Every site of a parsed module has another operator to offer. With it, the sites are the same but
for this operator; the module is another one, and differs from the module in normal form in nothing
but this operator; and with the old operator in its place again, the module in normal form is
back. -/
theorem operator_replaced {lines : List String} {module : Node} (h : parseLines lines = .ok module)
    {site : OperatorSite} (hsite : site ∈ module.operatorSites) :
    site.alternatives ≠ [] ∧ ∀ op ∈ site.alternatives,
      (∃ front back, module.operatorSites = front ++ site :: back ∧
        (module.withOperator site op).operatorSites =
          front ++ { site with operator := op } :: back) ∧
      module.withOperator site op ≠ module ∧
      module.tidy.Reoperated site.operator op site.position (module.withOperator site op) ∧
      (module.withOperator site op).withOperator { site with operator := op } site.operator =
        module.tidy := by
  have hn := regular_parseLines h
  obtain ⟨x, hx, -, hget, hfamily⟩ := exists_operation_of_mem hsite
  refine ⟨Operator.alternatives_ne_nil hfamily, fun op hop => ?_⟩
  obtain ⟨front, back, hsites, hsites'⟩ :=
    exists_operatorSites_withOperator hn hsite (Operator.inFamily_of_mem_alternatives hop)
  refine ⟨⟨front, back, hsites, hsites'⟩, fun heq => ?_, ?_, ?_⟩
  · rw [heq, hsites] at hsites'
    have hsame : site.operator = op :=
      congrArg OperatorSite.operator (List.cons.inj (List.append_cancel_left hsites')).1
    rw [OperatorSite.alternatives, hsame] at hop
    exact op.not_mem_alternatives hop
  · obtain ⟨y, hy, hops, heq⟩ :=
      exists_withOperator_eq hn hx (List.getElem?_eq_some_iff.mp hget).1
    rw [heq]
    exact reoperated_setOperator (regular_tidy hn).shaped hy (hops ▸ hget) op
  · exact withOperator_withOperator hn rfl rfl hx hget op

/-- The second operator of a chain of comparisons, in a function with a placeholder that it does not
need. -/
theorem operator_replaced_in_chain :
    ∃ module, parseLines ["def f(x):", "    pass", "    return 0 <= x < 10"] = .ok module ∧
      module.operatorSites = [⟨0, 0, 3, .ltE⟩, ⟨0, 1, 3, .lt⟩] ∧
      (module.withOperator ⟨0, 1, 3, .lt⟩ .notEq).operatorSites =
        [⟨0, 0, 3, .ltE⟩, ⟨0, 1, 3, .notEq⟩] ∧
      module.tidy.Reoperated .lt .notEq 1 (module.withOperator ⟨0, 1, 3, .lt⟩ .notEq) ∧
      (module.withOperator ⟨0, 1, 3, .lt⟩ .notEq).withOperator ⟨0, 1, 3, .notEq⟩ .lt =
        module.tidy := by
  have hparsed : (parseLines ["def f(x):", "    pass", "    return 0 <= x < 10"]).toOption.map
      operatorSites = some [⟨0, 0, 3, .ltE⟩, ⟨0, 1, 3, .lt⟩] := by
    decide +kernel
  obtain ⟨module, hparse, hsites⟩ := exists_ok_of_map_eq hparsed
  have hsite : (⟨0, 1, 3, .lt⟩ : OperatorSite) ∈ module.operatorSites := by simp [hsites]
  obtain ⟨⟨front, back, heq, hreplaced⟩, -, hdiffer, hback⟩ :=
    (operator_replaced hparse hsite).2 .notEq (by decide)
  refine ⟨module, hparse, hsites, ?_, hdiffer, hback⟩
  rw [hsites] at heq
  rw [hreplaced]
  cases front with
  | nil => simp at heq
  | cons s front => cases front <;> simp_all

end Node

end GeneticRepair.Code
