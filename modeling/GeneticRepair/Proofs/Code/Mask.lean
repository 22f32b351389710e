import GeneticRepair.Proofs.Code.Levels
import GeneticRepair.Proofs.Code.LocalTidy

/-!
# Masks

The mask of a tree is the tree with all its operators alike. Normal form does not look at operators,
so it may be taken of the mask as well as of the tree. The mask and the operations, listed breadth
first, determine the tree.
-/

namespace GeneticRepair.Code

/-! ## Lists of members that are known by their masks -/

section Lists

variable {α β γ : Type} {g : α → β} {xs ys : List α}

private theorem length_flatMap_congr {f : α → List γ}
    (hlength : ∀ x ∈ xs, ∀ y ∈ ys, g x = g y → (f x).length = (f y).length)
    (hmap : xs.map g = ys.map g) : (xs.flatMap f).length = (ys.flatMap f).length := by
  induction xs generalizing ys with
  | nil => rw [List.map_eq_nil_iff.mp hmap.symm]
  | cons x xs ih =>
    obtain ⟨y, ys, rfl, hy, hys⟩ := List.map_eq_cons_iff.mp hmap.symm
    have htail := ih (fun x hx y hy => hlength x (by simp [hx]) y (by simp [hy])) hys.symm
    rw [List.flatMap_cons, List.flatMap_cons, List.length_append, List.length_append, htail,
      hlength x (by simp) y (by simp) hy.symm]

private theorem eq_of_flatMap_eq {f : Nat → α → List γ}
    (hlength : ∀ d, ∀ x ∈ xs, ∀ y ∈ ys, g x = g y → (f d x).length = (f d y).length)
    (hmap : xs.map g = ys.map g) (hflat : ∀ d, xs.flatMap (f d) = ys.flatMap (f d))
    (h : ∀ x ∈ xs, ∀ y ∈ ys, g x = g y → (∀ d, f d x = f d y) → x = y) : xs = ys := by
  induction xs generalizing ys with
  | nil => exact (List.map_eq_nil_iff.mp hmap.symm).symm
  | cons x xs ih =>
    obtain ⟨y, ys, rfl, hy, hys⟩ := List.map_eq_cons_iff.mp hmap.symm
    simp only [List.flatMap_cons] at hflat
    have hx := fun d => hlength d x (by simp) y (by simp) hy.symm
    rw [h x (by simp) y (by simp) hy.symm fun d => List.append_inj_left (hflat d) (hx d),
      ih (fun d x hx y hy => hlength d x (by simp [hx]) y (by simp [hy])) hys.symm
        (fun d => List.append_inj_right (hflat d) (hx d))
        fun x hx y hy => h x (by simp [hx]) y (by simp [hy])]

private theorem forall_eq_of_flatMap_eq {f f' : α → List γ}
    (hlength : ∀ x ∈ xs, (f x).length = (f' x).length) (h : xs.flatMap f = xs.flatMap f') :
    ∀ x ∈ xs, f x = f' x := by
  induction xs with
  | nil => exact fun _ hx => nomatch hx
  | cons x xs ih =>
    rw [List.flatMap_cons, List.flatMap_cons] at h
    have hx := hlength x (by simp)
    exact List.forall_mem_cons.mpr ⟨List.append_inj_left h hx,
      ih (fun x hx => hlength x (by simp [hx])) (List.append_inj_right h hx)⟩

end Lists

/-! ## Heads and terms -/

namespace Head

variable {h k : Head}

def mask : Head → Head
  | .binary _ => .binary .add
  | .connective _ => .connective .add
  | .comparison ops => .comparison (ops.map fun _ => .add)
  | h => h

def withOperators : Head → Option (List Operator) → Head
  | .binary _, some [op] => .binary op
  | .connective _, some [op] => .connective op
  | .comparison _, some ops => .comparison ops
  | h, _ => h

private theorem withOperators_mask (h : Head) : h.mask.withOperators h.operators? = h := by
  cases h <;> rfl

private theorem eq_of_mask_eq (hmask : h.mask = k.mask) (hops : h.operators? = k.operators?) :
    h = k := by
  rw [← h.withOperators_mask, hmask, hops, k.withOperators_mask]

private theorem operators?_mask (h : Head) :
    h.mask.operators? = h.operators?.map (·.map fun _ => .add) := by
  cases h <;> rfl

private theorem mask_eq_constant {c : Constant} : h.mask = .constant c ↔ h = .constant c := by
  cases h <;> simp [mask]

theorem mask_setOperator (position : Nat) (op : Operator) (h : Head) :
    (h.setOperator position op).mask = h.mask := by
  cases h with
  | comparison ops => simp [setOperator, mask, List.map_set, List.map_const']
  | _ => rfl

end Head

namespace Term

mutual

def mask : Term → Term
  | .node head line children => .node head.mask line (maskAll children)

def maskAll : List Term → List Term
  | [] => []
  | t :: ts => mask t :: maskAll ts

end

variable {t u : Term} {d : Nat}

private theorem maskAll_eq (ts : List Term) : maskAll ts = ts.map mask := by
  induction ts with
  | nil => rfl
  | cons t ts ih => rw [maskAll, ih, List.map_cons]

@[simp] theorem mask_node (head : Head) (line : Nat) (ts : List Term) :
    (node head line ts).mask = node head.mask line (ts.map mask) := by
  rw [mask, maskAll_eq]

private theorem length_tier_mask (d : Nat) (t : Term) :
    (t.mask.tier d).length = (t.tier d).length := by
  induction d generalizing t with
  | zero =>
    obtain ⟨head, line, ts⟩ := t
    rw [mask_node, tier_zero, tier_zero, Head.operators?_mask]
    cases head.operators? <;> rfl
  | succ d ih =>
    obtain ⟨head, line, ts⟩ := t
    rw [mask_node, tier_succ, tier_succ, List.flatMap_map]
    simp only [List.length_flatMap, ih]

private theorem length_tier_congr (h : t.mask = u.mask) (d : Nat) :
    (t.tier d).length = (u.tier d).length := by
  rw [← length_tier_mask, h, length_tier_mask]

private theorem eq_of_tier_eq (hmask : t.mask = u.mask) (htier : ∀ d, t.tier d = u.tier d) :
    t = u := by
  induction t using children_induction generalizing u with
  | step t ih =>
    obtain ⟨head, line, ts⟩ := t
    obtain ⟨head', line', us⟩ := u
    simp only [mask_node, node.injEq] at hmask
    obtain ⟨hhead, rfl, hchildren⟩ := hmask
    have hops : head.operators? = head'.operators? := by
      have hzero := htier 0
      rw [tier_zero, tier_zero] at hzero
      cases h : head.operators? <;> cases h' : head'.operators? <;> simp_all
    have htiers : ∀ d, ts.flatMap (tier d) = us.flatMap (tier d) := by
      intro d
      rw [← tier_succ, htier, tier_succ]
    rw [Head.eq_of_mask_eq hhead hops,
      eq_of_flatMap_eq (fun d _ _ _ _ h => length_tier_congr h d) hchildren htiers
        fun t ht u _ => ih t ht]

end Term

/-! ## Nodes -/

namespace Node

mutual

def mask : Node → Node
  | mk l s ts b o h f c =>
    mk l s (ts.map Term.mask) (maskAll b) (maskAll o) (maskAll h) (maskAll f) (maskAll c)

def maskAll : List Node → List Node
  | [] => []
  | n :: ns => mask n :: maskAll ns

end

variable {m n : Node} {d : Nat}

private theorem maskAll_eq (ns : List Node) : maskAll ns = ns.map mask := by
  induction ns with
  | nil => rfl
  | cons n ns ih => rw [maskAll, ih, List.map_cons]

theorem mask_mk (l : Label) (s : Span) (ts : List Term) (b o h f c : List Node) :
    (mk l s ts b o h f c).mask = mk l s (ts.map Term.mask) (b.map mask) (o.map mask) (h.map mask)
      (f.map mask) (c.map mask) := by
  simp only [mask, maskAll_eq]

@[simp] theorem label_mask (n : Node) : n.mask.label = n.label := by
  cases n
  rfl

@[simp] theorem span_mask (n : Node) : n.mask.span = n.span := by
  cases n
  rfl

@[simp] theorem terms_mask (n : Node) : n.mask.terms = n.terms.map Term.mask := by
  cases n
  rfl

@[simp] theorem rawBlock_mask (n : Node) (field : Field) :
    n.mask.rawBlock field = (n.rawBlock field).map mask := by
  cases n
  rw [mask_mk]
  cases field <;> rfl

private theorem children_mask (n : Node) : n.mask.children = n.children.map mask := by
  cases n
  rw [mask_mk]
  simp only [children, List.map_append]

private theorem terms_mask_eq_constant {c : Constant} {ts : List Term} :
    (∃ line us, ts.map Term.mask = [.node (.constant c) line us]) ↔
      ∃ line us, ts = [.node (.constant c) line us] := by
  constructor
  · rintro ⟨line, us, h⟩
    obtain ⟨t, rest, rfl, ht, hrest⟩ := List.map_eq_cons_iff.mp h
    obtain rfl := List.map_eq_nil_iff.mp hrest
    obtain ⟨head, line', us'⟩ := t
    rw [Term.mask_node, Term.node.injEq, Head.mask_eq_constant] at ht
    exact ⟨line', us', by rw [ht.1]⟩
  · rintro ⟨line, us, rfl⟩
    exact ⟨line, us.map Term.mask, by simp [Head.mask]⟩

private theorem alike_mask (n : Node) : n.mask.Alike n where
  label := n.label_mask
  span := n.span_mask
  isEmpty := by
    rw [Bool.eq_iff_iff, isEmpty_iff, isEmpty_iff, label_mask, terms_mask, terms_mask_eq_constant]
  isText := by
    rw [Bool.eq_iff_iff, isText_iff, isText_iff, label_mask, terms_mask]
    simp only [terms_mask_eq_constant]

/-! ## Normal form -/

private theorem mask_placeholder (span : Span) : (placeholder span).mask = placeholder span :=
  rfl

private theorem tidyBlocks_mask (span : Span) (n : Node) :
    tidyBlocks span n.mask = (tidyBlocks span n).mask := by
  obtain ⟨l, s, ts, b, o, h, f, c⟩ := n
  rw [mask_mk]
  simp only [tidyBlocks, fill, mask_mk, tidyBlock_map alike_mask,
    fillBody_map alike_mask mask_placeholder, fillFinal_map mask_placeholder]

private theorem mask_everywhere_tidyBlocks (outer : Span) (n : Node) :
    (everywhere tidyBlocks outer n).mask = everywhere tidyBlocks outer n.mask := by
  induction n using children_induction generalizing outer with
  | step n ih =>
    rw [everywhere_eq, everywhere_eq tidyBlocks outer n.mask, label_mask, span_mask,
      ← tidyBlocks_mask]
    congr 1
    generalize spanWithin outer n.label n.span = span
    have hmap : ∀ field, ((n.rawBlock field).map (everywhere tidyBlocks span)).map mask =
        ((n.rawBlock field).map mask).map (everywhere tidyBlocks span) := by
      intro field
      rw [List.map_map, List.map_map]
      exact List.map_congr_left fun m hm => ih m (n.rawBlock_subset_children field hm) span
    obtain ⟨l, s, ts, b, o, h, f, c⟩ := n
    rw [mapBlocks, mask_mk, mask_mk, mapBlocks]
    congr 1
    · exact hmap .body
    · exact hmap .orelse
    · exact hmap .handlers
    · exact hmap .finalbody
    · exact hmap .cases

theorem mask_tidy (module : Node) : module.tidy.mask = module.mask.tidy :=
  mask_everywhere_tidyBlocks outermost module

private theorem plain_mask : n.mask.Plain ↔ n.Plain := by
  constructor
  · rintro ⟨hl, hnil⟩
    refine ⟨n.label_mask ▸ hl, fun field hfield => ?_⟩
    have hfield' := hnil field (by rwa [label_mask])
    rwa [rawBlock_mask, List.map_eq_nil_iff] at hfield'
  · rintro ⟨hl, hnil⟩
    refine ⟨n.label_mask.symm ▸ hl, fun field hfield => ?_⟩
    rw [label_mask] at hfield
    rw [rawBlock_mask, hnil field hfield, List.map_nil]

private theorem bare_mask : n.mask.Bare ↔ n.Bare := by
  have hterm : ∀ t : Term, (∃ c line, t.mask = .node (.constant c) line []) ↔
      ∃ c line, t = .node (.constant c) line [] := by
    rintro ⟨head, line, ts⟩
    simp [Head.mask_eq_constant]
  rw [Bare, Bare, (alike_mask n).isEmpty, terms_mask]
  simp only [List.forall_mem_map, hterm]

theorem regular_mask : n.mask.Regular ↔ n.Regular := by
  induction n using children_induction with
  | step n ih =>
    rw [regular_iff, regular_iff, plain_mask, bare_mask, children_mask, List.forall_mem_map]
    exact and_congr_right' (and_congr_right' (forall₂_congr ih))

/-! ## What determines a module -/

private theorem eq_iff : m = n ↔ m.label = n.label ∧ m.span = n.span ∧ m.terms = n.terms ∧
    ∀ field, m.rawBlock field = n.rawBlock field := by
  constructor
  · rintro rfl
    exact ⟨rfl, rfl, rfl, fun _ => rfl⟩
  · rintro ⟨hlabel, hspan, hterms, hblock⟩
    have hbody := hblock .body
    have horelse := hblock .orelse
    have hhandlers := hblock .handlers
    have hfinal := hblock .finalbody
    have hcases := hblock .cases
    cases m
    cases n
    simp_all [rawBlock]

private theorem mask_eq_iff : m.mask = n.mask ↔ m.label = n.label ∧ m.span = n.span ∧
    m.terms.map Term.mask = n.terms.map Term.mask ∧
    ∀ field, (m.rawBlock field).map mask = (n.rawBlock field).map mask := by
  simp only [eq_iff, label_mask, span_mask, terms_mask, rawBlock_mask]

private theorem leadingTerms_congr {l : Label} {ts us : List Term}
    (h : ts.map Term.mask = us.map Term.mask) : l.leadingTerms ts = l.leadingTerms us := by
  have hlength : ts.length = us.length := by simpa using congrArg List.length h
  cases l <;> simp [Label.leadingTerms, hlength]

private theorem length_flatMap_tier_take {ts us : List Term}
    (h : ts.map Term.mask = us.map Term.mask)
    (d k : Nat) : ((ts.take k).flatMap (Term.tier d)).length =
      ((us.take k).flatMap (Term.tier d)).length :=
  length_flatMap_congr (fun _ _ _ _ h => Term.length_tier_congr h d)
    (by rw [List.map_take, h, List.map_take])

private theorem length_flatMap_tier_drop {ts us : List Term}
    (h : ts.map Term.mask = us.map Term.mask)
    (d k : Nat) : ((ts.drop k).flatMap (Term.tier d)).length =
      ((us.drop k).flatMap (Term.tier d)).length :=
  length_flatMap_congr (fun _ _ _ _ h => Term.length_tier_congr h d)
    (by rw [List.map_drop, h, List.map_drop])

private theorem length_tier_congr (hm : m.Regular) (hn : n.Regular) (h : m.mask = n.mask)
    (d : Nat) :
    (m.tier d).length = (n.tier d).length := by
  have hl := (regular_iff.mp hm).1.label_ne
  have hl' := (regular_iff.mp hn).1.label_ne
  induction d generalizing m n with
  | zero => rw [tier_zero hl, tier_zero hl']
  | succ d ih =>
    obtain ⟨hlabel, -, hterms, hblock⟩ := mask_eq_iff.mp h
    have hfield : ∀ field, ((m.rawBlock field).flatMap (Node.tier d)).length =
        ((n.rawBlock field).flatMap (Node.tier d)).length := by
      intro field
      refine length_flatMap_congr (fun k hk k' hk' heq => ?_) (hblock field)
      have hk := hm.of_mem (m.rawBlock_subset_children field hk)
      have hk' := hn.of_mem (n.rawBlock_subset_children field hk')
      exact ih hk hk' heq (regular_iff.mp hk).1.label_ne (regular_iff.mp hk').1.label_ne
    rw [tier_succ hl, tier_succ hl', hlabel, leadingTerms_congr hterms]
    simp only [List.length_append, length_flatMap_tier_take hterms,
      length_flatMap_tier_drop hterms, List.length_flatMap (l := visited)]
    simp only [hfield]

/-- A tree is known by its mask and by the contents of its operations on every level. -/
theorem eq_of_tier_eq (hm : m.Regular) (hn : n.Regular) (h : m.mask = n.mask)
    (htier : ∀ d, m.tier d = n.tier d) : m = n := by
  induction m using children_induction generalizing n with
  | step m ih =>
    have hl := (regular_iff.mp hm).1.label_ne
    have hl' := (regular_iff.mp hn).1.label_ne
    obtain ⟨hlabel, hspan, hterms, hblock⟩ := mask_eq_iff.mp h
    have hlength : ∀ d field, ∀ k ∈ m.rawBlock field, ∀ k' ∈ n.rawBlock field, k.mask = k'.mask →
        (k.tier d).length = (k'.tier d).length := fun d field k hk k' hk' heq =>
      length_tier_congr (hm.of_mem (m.rawBlock_subset_children field hk))
        (hn.of_mem (n.rawBlock_subset_children field hk')) heq d
    have hparts : ∀ d, m.terms.flatMap (Term.tier d) = n.terms.flatMap (Term.tier d) ∧
        ∀ field ∈ visited, (m.rawBlock field).flatMap (Node.tier d) =
          (n.rawBlock field).flatMap (Node.tier d) := by
      intro d
      have hsucc := htier (d + 1)
      rw [tier_succ hl, tier_succ hl', hlabel, leadingTerms_congr hterms] at hsucc
      generalize n.label.leadingTerms n.terms = leading at hsucc
      have hdrop := List.append_inj_right' hsucc (length_flatMap_tier_drop hterms d leading)
      have hfront := List.append_inj_left' hsucc (length_flatMap_tier_drop hterms d leading)
      have htake := List.append_inj_left hfront (length_flatMap_tier_take hterms d leading)
      have hfields := List.append_inj_right hfront (length_flatMap_tier_take hterms d leading)
      constructor
      · rw [← List.take_append_drop leading m.terms, ← List.take_append_drop leading n.terms,
          List.flatMap_append, List.flatMap_append, htake, hdrop]
      · exact forall_eq_of_flatMap_eq
          (fun field _ => length_flatMap_congr (hlength d field) (hblock field)) hfields
    refine eq_iff.mpr ⟨hlabel, hspan, ?_, fun field => ?_⟩
    · exact eq_of_flatMap_eq (fun d _ _ _ _ heq => Term.length_tier_congr heq d) hterms
        (fun d => (hparts d).1) fun t _ u _ heq => Term.eq_of_tier_eq heq
    · by_cases hfield : field ∈ visited
      · exact eq_of_flatMap_eq (fun d => hlength d field) (hblock field)
          (fun d => (hparts d).2 field hfield) fun k hk k' hk' heq =>
          ih k (m.rawBlock_subset_children field hk)
            (hm.of_mem (m.rawBlock_subset_children field hk))
            (hn.of_mem (n.rawBlock_subset_children field hk')) heq
      · cases m
        cases n
        cases field <;> first | rfl | exact absurd (by decide) hfield

/-- A module is known by its mask and by the contents of its operations, breadth first. -/
theorem eq_of_contents_eq (hm : m.Regular) (hn : n.Regular) (h : m.mask = n.mask)
    (hcontents : m.contents = n.contents) : m = n :=
  eq_of_tier_eq hm hn h (tier_eq_of_contents_eq (length_tier_congr hm hn h) hcontents)

end Node

end GeneticRepair.Code
