import GeneticRepair.Code.OperatorSite
import GeneticRepair.Proofs.Code.Headers

/-!
# Levels

The operations on a level of a tree are those on the level above it of what the tree is made of,
from left to right. What they are does not depend on where they stand, and normal form leaves it as
it is, since nothing is lost with an empty statement.
-/

namespace GeneticRepair.Code

/-! ## Lists of levels -/

section Lists

variable {α β : Type} {xs ys : List (List α)}

private theorem getD_mergeLevels (xs ys : List (List α)) (d : Nat) :
    (mergeLevels xs ys).getD d [] = xs.getD d [] ++ ys.getD d [] := by
  induction xs, ys using mergeLevels.induct generalizing d with
  | case1 ys => simp [mergeLevels]
  | case2 xs => cases xs <;> simp [mergeLevels]
  | case3 x xs y ys ih => cases d <;> simp_all [mergeLevels]

theorem flatten_mergeLevels_perm (xs ys : List (List α)) :
    (mergeLevels xs ys).flatten.Perm (xs.flatten ++ ys.flatten) := by
  induction xs, ys using mergeLevels.induct with
  | case1 ys => simp [mergeLevels]
  | case2 xs => cases xs <;> simp [mergeLevels]
  | case3 x xs y ys ih =>
    simp only [mergeLevels, List.flatten_cons, List.append_assoc]
    refine List.Perm.append_left x ((List.Perm.append_left y ih).trans ?_)
    exact List.perm_append_comm_assoc y xs.flatten ys.flatten

theorem map_mergeLevels (f : α → β) (xs ys : List (List α)) :
    (mergeLevels xs ys).map (·.map f) = mergeLevels (xs.map (·.map f)) (ys.map (·.map f)) := by
  induction xs, ys using mergeLevels.induct with
  | case1 ys => simp [mergeLevels]
  | case2 xs => cases xs <;> simp [mergeLevels]
  | case3 x xs y ys ih => simp [mergeLevels, ih]

private theorem mergeLevels_assoc (xs ys zs : List (List α)) :
    mergeLevels (mergeLevels xs ys) zs = mergeLevels xs (mergeLevels ys zs) := by
  induction xs, ys using mergeLevels.induct generalizing zs with
  | case1 ys => simp [mergeLevels]
  | case2 xs => cases xs <;> simp [mergeLevels]
  | case3 x xs y ys ih => cases zs <;> simp [mergeLevels, ih]

private theorem getD_map_map (f : α → β) (xs : List (List α)) (d : Nat) :
    (xs.map (·.map f)).getD d [] = (xs.getD d []).map f := by
  rw [List.getD_eq_getElem?_getD, List.getElem?_map, List.getD_eq_getElem?_getD]
  cases xs[d]? <;> rfl

private theorem flatten_eq_getD_append_tail (xs : List (List α)) :
    xs.flatten = xs.getD 0 [] ++ xs.tail.flatten := by
  cases xs <;> rfl

private theorem getD_tail (xs : List (List α)) (d : Nat) :
    xs.tail.getD d [] = xs.getD (d + 1) [] := by
  cases xs <;> simp

private theorem flatten_eq_of_getD (h : ∀ d, xs.getD d [] = ys.getD d []) :
    xs.flatten = ys.flatten := by
  have hbounded : ∀ (bound : Nat) (xs ys : List (List α)), xs.length ≤ bound → ys.length ≤ bound →
      (∀ d, xs.getD d [] = ys.getD d []) → xs.flatten = ys.flatten := by
    intro bound
    induction bound with
    | zero =>
      intro xs ys hxs hys _
      rw [List.eq_nil_of_length_eq_zero (Nat.le_zero.mp hxs),
        List.eq_nil_of_length_eq_zero (Nat.le_zero.mp hys)]
    | succ bound ih =>
      intro xs ys hxs hys h
      rw [flatten_eq_getD_append_tail xs, flatten_eq_getD_append_tail ys, h 0,
        ih xs.tail ys.tail (by rw [List.length_tail]; omega) (by rw [List.length_tail]; omega)]
      intro d
      rw [getD_tail, getD_tail, h]
  exact hbounded (max xs.length ys.length) xs ys (Nat.le_max_left _ _) (Nat.le_max_right _ _) h

private theorem getD_eq_of_flatten_eq (hlength : ∀ d, (xs.getD d []).length = (ys.getD d []).length)
    (h : xs.flatten = ys.flatten) (d : Nat) : xs.getD d [] = ys.getD d [] := by
  induction d generalizing xs ys with
  | zero =>
    rw [flatten_eq_getD_append_tail xs, flatten_eq_getD_append_tail ys] at h
    exact List.append_inj_left h (hlength 0)
  | succ d ih =>
    rw [flatten_eq_getD_append_tail xs, flatten_eq_getD_append_tail ys] at h
    rw [← getD_tail, ← getD_tail]
    refine ih (fun d => ?_) (List.append_inj_right h (hlength 0))
    rw [getD_tail, getD_tail, hlength]

end Lists

/-! ## Tiers -/

def Operation.content (x : Operation) : Nat × List Operator :=
  (x.line, x.operators)

/-- The contents of the operations on a level. -/
def tier (levels : List (List Operation)) (d : Nat) : List (Nat × List Operator) :=
  (levels.getD d []).map Operation.content

def Term.tier (d : Nat) (t : Term) : List (Nat × List Operator) :=
  Code.tier t.levels d

def Node.tier (d : Nat) (n : Node) : List (Nat × List Operator) :=
  Code.tier n.levels d

private theorem tier_mergeLevels (xs ys : List (List Operation)) (d : Nat) :
    tier (mergeLevels xs ys) d = tier xs d ++ tier ys d := by
  rw [tier, getD_mergeLevels, List.map_append, tier, tier]

private theorem tier_levelsUnder (step : TreeStep) (xs : List (List Operation)) (d : Nat) :
    tier (levelsUnder step xs) d = tier xs d := by
  rw [tier, levelsUnder, getD_map_map, List.map_map]
  rfl

/-- What terms and nodes have in common: the levels of the members of a list, each member under a
step of its own. -/
def joinLevels {α : Type} (step : Nat → TreeStep) (levels : α → List (List Operation))
    (index : Nat) : List α → List (List Operation)
  | [] => []
  | x :: xs =>
    mergeLevels (levelsUnder (step index) (levels x)) (joinLevels step levels (index + 1) xs)

theorem termLevels_eq (index : Nat) (ts : List Term) :
    termLevels index ts = joinLevels .term Term.levels index ts := by
  induction ts generalizing index with
  | nil => rfl
  | cons t ts ih => rw [termLevels, joinLevels, ih]

private theorem nodeLevels_eq (field : Field) (index : Nat) (ns : List Node) :
    nodeLevels field index ns = joinLevels (.block field) Node.levels index ns := by
  induction ns generalizing index with
  | nil => rfl
  | cons n ns ih => rw [nodeLevels, joinLevels, ih]

theorem joinLevels_append {α : Type} (step : Nat → TreeStep) (levels : α → List (List Operation))
    (index : Nat) (xs ys : List α) : joinLevels step levels index (xs ++ ys) =
      mergeLevels (joinLevels step levels index xs)
        (joinLevels step levels (index + xs.length) ys) := by
  induction xs generalizing index with
  | nil => simp [joinLevels, mergeLevels]
  | cons x xs ih =>
    rw [List.cons_append, joinLevels, joinLevels, ih, mergeLevels_assoc, List.length_cons,
      Nat.add_right_comm, Nat.add_assoc]

private theorem tier_joinLevels {α : Type} (step : Nat → TreeStep)
    (levels : α → List (List Operation))
    (index : Nat) (xs : List α) (d : Nat) :
    tier (joinLevels step levels index xs) d = xs.flatMap fun x => tier (levels x) d := by
  induction xs generalizing index with
  | nil => simp [joinLevels, tier]
  | cons x xs ih => rw [joinLevels, tier_mergeLevels, tier_levelsUnder, ih, List.flatMap_cons]

namespace Term

variable {P : Term → Prop}

mutual

private theorem induct (step : ∀ t, (∀ u ∈ t.children, P u) → P t) : ∀ t, P t
  | node _ _ ts => step _ (inductIn step ts)

private theorem inductIn (step : ∀ t, (∀ u ∈ t.children, P u) → P t) :
    ∀ ts : List Term, ∀ u ∈ ts, P u
  | [] => fun _ hu => nomatch hu
  | t :: ts => fun u hu => by
    rcases List.mem_cons.mp hu with heq | hu
    · exact heq ▸ induct step t
    · exact inductIn step ts u hu

end

/-- What holds of a term if it holds of its children holds of every term. -/
@[elab_as_elim]
theorem children_induction (t : Term) (step : ∀ t, (∀ u ∈ t.children, P u) → P t) : P t :=
  induct step t

variable {head : Head} {line : Nat} {ts : List Term} {d : Nat}

theorem tier_zero : (node head line ts).tier 0 = head.operators?.toList.map (line, ·) := by
  rw [tier, Code.tier, levels]
  cases head.operators? <;> rfl

theorem tier_succ : (node head line ts).tier (d + 1) = ts.flatMap (Term.tier d) := by
  rw [tier, Code.tier, levels, List.getD_cons_succ, ← Code.tier, termLevels_eq, tier_joinLevels]
  rfl

private theorem tier_constant (c : Constant) (line : Nat) (d : Nat) :
    (node (.constant c) line []).tier d = [] := by
  cases d with
  | zero => exact tier_zero
  | succ d => exact tier_succ

end Term

namespace Node

variable {n : Node} {d : Nat}

def visited : List Field :=
  [.body, .handlers, .orelse, .finalbody, .cases]

def blockLevels (n : Node) (field : Field) : List (List Operation) :=
  joinLevels (.block field) levels 0 (n.rawBlock field)

/-- The levels of a node: below it are the leading terms, the blocks, and the other terms. -/
theorem levels_eq (hl : n.label ≠ .loose) :
    let leading := n.label.leadingTerms n.terms
    n.levels = [] :: mergeLevels (joinLevels .term Term.levels 0 (n.terms.take leading))
      (visited.foldr (fun field => mergeLevels (n.blockLevels field))
        (joinLevels .term Term.levels (min leading n.terms.length) (n.terms.drop leading))) := by
  obtain ⟨l, s, ts, b, o, h, f, c⟩ := n
  rw [levels, if_neg (by simpa using hl)]
  simp only [termLevels_eq, nodeLevels_eq]
  rfl

theorem tier_zero (hl : n.label ≠ .loose) : n.tier 0 = [] := by
  rw [tier, levels_eq hl]
  rfl

theorem tier_succ (hl : n.label ≠ .loose) : n.tier (d + 1) =
    (n.terms.take (n.label.leadingTerms n.terms)).flatMap (Term.tier d) ++
      (visited.flatMap fun field => (n.rawBlock field).flatMap (Node.tier d)) ++
      (n.terms.drop (n.label.leadingTerms n.terms)).flatMap (Term.tier d) := by
  rw [tier, levels_eq hl, Code.tier, List.getD_cons_succ, ← Code.tier]
  simp only [visited, blockLevels, List.foldr_cons, List.foldr_nil, tier_mergeLevels,
    tier_joinLevels, List.flatMap_cons, List.flatMap_nil, List.append_nil, List.append_assoc]
  rfl

def contents (module : Node) : List (Nat × List Operator) :=
  module.operations.map Operation.content

private theorem contents_eq (n : Node) :
    n.contents = (n.levels.map (·.map Operation.content)).flatten := by
  rw [contents, operations, List.map_flatten]

private theorem contents_congr {m n : Node} (h : ∀ d, m.tier d = n.tier d) :
    m.contents = n.contents := by
  rw [contents_eq, contents_eq]
  refine flatten_eq_of_getD fun d => ?_
  rw [getD_map_map, getD_map_map]
  exact h d

theorem tier_eq_of_contents_eq {m n : Node} (hlength : ∀ d, (m.tier d).length = (n.tier d).length)
    (h : m.contents = n.contents) (d : Nat) : m.tier d = n.tier d := by
  rw [contents_eq, contents_eq] at h
  have hget : ∀ (k : Node) d, (k.levels.map (·.map Operation.content)).getD d [] = k.tier d :=
    fun k d => getD_map_map Operation.content k.levels d
  rw [← hget, ← hget]
  refine getD_eq_of_flatten_eq (fun d => ?_) h d
  rw [hget, hget, hlength]

/-! ## Normal form -/

private theorem tier_of_isEmpty (hn : n.Regular) (h : n.isEmpty = true) (d : Nat) :
    n.tier d = [] := by
  obtain ⟨hplain, hbare, -⟩ := regular_iff.mp hn
  cases d with
  | zero => exact tier_zero hplain.label_ne
  | succ d =>
    have hterm : ∀ t ∈ n.terms, t.tier d = [] := by
      intro t ht
      obtain ⟨c, line, rfl⟩ := hbare h t ht
      exact Term.tier_constant c line d
    have hblock : ∀ field, n.rawBlock field = [] := fun field =>
      hplain.rawBlock_eq_nil field (by simp [fields_of_isEmpty h])
    rw [tier_succ hplain.label_ne, List.flatMap_eq_nil_iff.mpr fun t ht =>
      hterm t (List.mem_of_mem_take ht), List.flatMap_eq_nil_iff.mpr fun t ht =>
      hterm t (List.mem_of_mem_drop ht), List.flatMap_eq_nil_iff.mpr fun field _ => by
      rw [hblock field, List.flatMap_nil]]
    rfl

private theorem tier_everywhere_tidyBlocks (hn : n.Regular) (outer : Span) (d : Nat) :
    (everywhere tidyBlocks outer n).tier d = n.tier d := by
  induction d generalizing n outer with
  | zero =>
    rw [tier_zero (regular_iff.mp hn).1.label_ne,
      tier_zero (regular_iff.mp (regular_everywhere_tidyBlocks hn outer)).1.label_ne]
  | succ d ih =>
    have hl := (regular_iff.mp hn).1.label_ne
    have hlabel : (everywhere tidyBlocks outer n).label = n.label :=
      congrArg (·.label) (header_everywhere_tidyBlocks outer n)
    have hterms : (everywhere tidyBlocks outer n).terms = n.terms :=
      congrArg (·.terms) (header_everywhere_tidyBlocks outer n)
    have hblock : ∀ field, ((everywhere tidyBlocks outer n).rawBlock field).flatMap (Node.tier d) =
        (n.rawBlock field).flatMap (Node.tier d) := by
      intro field
      have hregular : ∀ m ∈ n.rawBlock field, m.Regular := fun m hm =>
        hn.of_mem (n.rawBlock_subset_children field hm)
      rw [flatMap_everywhere_tidyBlocks (fun s => tier_of_isEmpty (regular_placeholder s) rfl d)
        fun m hm span hempty =>
          tier_of_isEmpty (regular_everywhere_tidyBlocks (hregular m hm) span) hempty d]
      exact List.flatMap_congr fun m hm => ih (hregular m hm) _
    rw [tier_succ hl, tier_succ (hlabel ▸ hl), hlabel, hterms]
    simp only [hblock]

/-- Normal form leaves the operations of a module as they are, in the same order. -/
theorem contents_tidy (hn : n.Regular) : n.tidy.contents = n.contents :=
  contents_congr (tier_everywhere_tidyBlocks hn outermost)

end Node

end GeneticRepair.Code
