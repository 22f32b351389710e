import GeneticRepair.Proofs.Code.Headers
import GeneticRepair.Proofs.Code.Replacement

/-!
# Normal form after a change at one place

Whether a node follows the rules depends on what stands in its blocks, but not on what these nodes
hold. So a change inside one node of a module in normal form leaves nothing to tidy but that node.
-/

namespace GeneticRepair.Code

variable {l : Label} {field : Field} {ns : List Node} {i : Nat}

/-! ## Blocks -/

/-- For the block that they stand in, the nodes are the same. -/
structure Node.Alike (m n : Node) : Prop where
  label : m.label = n.label
  span : m.span = n.span
  isEmpty : m.isEmpty = n.isEmpty
  isText : m.isText = n.isText

/-- An empty statement is the last one, and stands right behind the docstring. -/
theorem soleEmpty_iff : SoleEmpty l field ns ↔ ∀ j m, ns[j]? = some m → m.isEmpty = true →
    docstrings l field ns = j ∧ ns.length = j + 1 := by
  constructor
  · intro h j m hget hempty
    have hlength := congrArg List.length (h m (List.mem_of_getElem? hget) hempty)
    have hlt := (List.getElem?_eq_some_iff.mp hget).1
    have hle : docstrings l field ns ≤ j := by
      by_contra hdoc
      obtain ⟨-, -, -, htext⟩ := (Node.lt_docstrings_iff hget).mp (Nat.lt_of_not_le hdoc)
      rw [not_isEmpty_of_isText htext] at hempty
      cases hempty
    rw [List.length_drop, List.length_singleton] at hlength
    omega
  · intro h m hm hempty
    obtain ⟨j, hget⟩ := List.mem_iff_getElem?.mp hm
    obtain ⟨hdoc, hlength⟩ := h j m hget hempty
    rw [hdoc, List.drop_eq_getElem?_toList_append, hget, List.drop_of_length_le (by omega)]
    rfl

section Alike

variable {m k : Node} (halike : k.Alike m) (hm : ns[i]? = some m)

include halike hm

private theorem docstrings_set : docstrings l field (ns.set i k) = docstrings l field ns := by
  cases ns with
  | nil => rfl
  | cons d ns =>
    cases i with
    | zero =>
      obtain rfl := Option.some.inj hm
      rw [List.set_cons_zero, docstrings_cons, docstrings_cons, halike.isText]
    | succ i => rfl

private theorem soleEmpty_set (h : SoleEmpty l field ns) : SoleEmpty l field (ns.set i k) := by
  rw [soleEmpty_iff] at h ⊢
  intro j n hget hempty
  rw [docstrings_set halike hm, List.length_set]
  by_cases hij : i = j
  · subst hij
    rw [List.getElem?_set_self (List.getElem?_eq_some_iff.mp hm).1] at hget
    obtain rfl := Option.some.inj hget
    exact h i m hm (halike.isEmpty ▸ hempty)
  · rw [List.getElem?_set_ne hij] at hget
    exact h j n hget hempty

end Alike

/-! Whatever leaves nodes alike may be applied to a block before or after it is brought to normal
form. -/

section Map

variable {g : Node → Node} (hg : ∀ n, (g n).Alike n)

include hg

private theorem docstrings_map (l : Label) (field : Field) (ns : List Node) :
    docstrings l field (ns.map g) = docstrings l field ns := by
  cases ns with
  | nil => rfl
  | cons n ns => rw [List.map_cons, docstrings_cons, docstrings_cons, (hg n).isText]

private theorem dropEmpty_map (ns : List Node) : dropEmpty (ns.map g) = (dropEmpty ns).map g := by
  have hsubstance : substance (ns.map g) = (substance ns).map g :=
    Node.substance_map (fun n => (hg n).isEmpty) ns
  unfold substance at hsubstance
  unfold dropEmpty
  rw [hsubstance]
  cases ns.filter (!·.isEmpty) with
  | nil => exact List.map_take.symm
  | cons => rfl

theorem tidyBlock_map (l : Label) (field : Field) (ns : List Node) :
    tidyBlock l field (ns.map g) = (tidyBlock l field ns).map g := by
  dsimp only [tidyBlock]
  rw [docstrings_map hg, ← List.map_take, ← List.map_drop, dropEmpty_map hg, List.map_append]

variable (hplaceholder : ∀ span, g (.placeholder span) = .placeholder span)

include hplaceholder

theorem fillBody_map (l : Label) (span : Span) (ns : List Node) :
    fillBody l span (ns.map g) = (fillBody l span ns).map g := by
  unfold fillBody
  rw [List.getLast?_map, docstrings_map hg, List.length_map]
  split
  · rfl
  · cases ns.getLast? with
    | none => simp [hplaceholder]
    | some last => 
      simp only [Option.map_some, (hg last).span]
      split <;> simp [hplaceholder]

omit hg in
theorem fillFinal_map (l : Label) (span : Span) (handlers ns : List Node) :
    fillFinal l span (handlers.map g) (ns.map g) = (fillFinal l span handlers ns).map g := by
  unfold fillFinal
  simp only [List.map_eq_nil_iff]
  split <;> simp [hplaceholder]

end Map

namespace Node

variable {n m k w child : Node} {p q : Place} {span : Span}

private theorem isText_congr (hlabel : m.label = n.label) (hterms : m.terms = n.terms) :
    m.isText = n.isText := by
  rw [Bool.eq_iff_iff, isText_iff, isText_iff, hlabel, hterms]

private theorem alike_of_header (h : m.header = n.header) : m.Alike n :=
  have hlabel : m.label = n.label := congrArg (·.label) h
  have hterms : m.terms = n.terms := congrArg (·.terms) h
  ⟨hlabel, congrArg (·.span) h, isEmpty_congr hlabel hterms, isText_congr hlabel hterms⟩

def HasCode (n : Node) : Prop :=
  n.label.isFunction → docstrings n.label .body (n.rawBlock .body) < (n.rawBlock .body).length

theorem hasCode_setBlock_of_ne (h : field ≠ .body) (ns : List Node) :
    (n.setBlock field ns).HasCode ↔ n.HasCode := by
  rw [HasCode, HasCode, label_setBlock, rawBlock_setBlock_of_ne n ns (Ne.symm h)]

theorem hasCode_setBlock_body (h : n.hasBlock .body = true) (ns : List Node) :
    (n.setBlock .body ns).HasCode ↔
      (n.label.isFunction → docstrings n.label .body ns < ns.length) := by
  rw [HasCode, label_setBlock, rawBlock_setBlock_self ns h]

/-- A block that follows the rules may take the place of another one. -/
theorem WellFormed.setBlock (hn : n.WellFormed) (hblock : n.hasBlock field = true) (hne : ns ≠ [])
    (hsole : field ∈ [Field.body, .orelse, .finalbody] → SoleEmpty n.label field ns)
    (hcode : (n.setBlock field ns).HasCode) : (n.setBlock field ns).WellFormed := by
  have hself := rawBlock_setBlock_self ns hblock
  have hsame : ∀ other, other ≠ field → (n.setBlock field ns).rawBlock other = n.rawBlock other :=
    fun other hother => rawBlock_setBlock_of_ne n ns hother
  have hnil : ∀ other, n.rawBlock other ≠ [] → (n.setBlock field ns).rawBlock other ≠ [] := by
    intro other hother
    by_cases heq : other = field
    · rwa [heq, hself]
    · rwa [hsame other heq]
  refine ⟨?_, ?_, ?_, hcode⟩ <;> rw [label_setBlock]
  · exact fun hmodule hbody => hnil .body (hn.body_ne_nil hmodule hbody)
  · exact fun htry => (hn.closed htry).imp (hnil .handlers) (hnil .finalbody)
  · intro other hother
    by_cases heq : other = field
    · rw [heq, hself]
      exact hsole (heq ▸ hother)
    · rw [hsame other heq]
      exact hn.soleEmpty other hother

private theorem WellFormed.set (hn : n.WellFormed) (hblock : n.hasBlock field = true)
    (hm : (n.rawBlock field)[i]? = some m) (halike : k.Alike m) :
    (n.setBlock field ((n.rawBlock field).set i k)).WellFormed := by
  refine hn.setBlock hblock ?_ (fun hfield => soleEmpty_set halike hm (hn.soleEmpty field hfield)) ?_
  · rw [ne_eq, List.set_eq_nil_iff]
    rintro hnil
    rw [hnil] at hm
    cases hm
  · by_cases hbody : field = .body
    · subst hbody
      rw [hasCode_setBlock_body hblock, docstrings_set halike hm, List.length_set]
      exact hn.code
    · rw [hasCode_setBlock_of_ne hbody]
      exact hn.code

/-- If a node follows the rules but for its body, there is nothing to tidy but the body. -/
theorem WellFormed.tidyBlocks_setBlock_body (hn : n.WellFormed) (span : Span) (ns : List Node) :
    tidyBlocks span (n.setBlock .body ns) =
      n.setBlock .body (fillBody n.label span (tidyBlock n.label .body ns)) := by
  have heq := hn.tidyBlocks_eq_self span
  obtain ⟨l, s, ts, b, o, h, f, c⟩ := n
  simp only [tidyBlocks, fill, Node.mk.injEq, true_and] at heq
  simp only [Node.setBlock, tidyBlocks, fill, heq.2, label_mk]

/-! ## Trees -/

def mapBlocks (f : Node → Node) : Node → Node
  | mk l s ts b o h fb c => mk l s ts (b.map f) (o.map f) (h.map f) (fb.map f) (c.map f)

theorem everywhere_eq (f : Span → Node → Node) (outer : Span) (n : Node) :
    everywhere f outer n = f (spanWithin outer n.label n.span)
      (n.mapBlocks (everywhere f (spanWithin outer n.label n.span))) := by
  cases n
  exact everywhere_mk f outer _ _ _ _ _ _ _ _

private theorem mapBlocks_setBlock (f : Node → Node) (n : Node) (field : Field) (ns : List Node) :
    (n.setBlock field ns).mapBlocks f = (n.mapBlocks f).setBlock field (ns.map f) := by
  cases n
  cases field <;> rfl

private theorem mapBlocks_eq_self {f : Node → Node} (h : ∀ m ∈ n.children, f m = m) :
    n.mapBlocks f = n := by
  have hmap : ∀ field, (n.rawBlock field).map f = n.rawBlock field := by
    intro field
    rw [List.map_congr_left fun m hm => h m (n.rawBlock_subset_children field hm), List.map_id']
  obtain ⟨l, s, ts, b, o, hs, fb, c⟩ := n
  have hb : b.map f = b := hmap .body
  have ho : o.map f = o := hmap .orelse
  have hh : hs.map f = hs := hmap .handlers
  have hf : fb.map f = fb := hmap .finalbody
  have hc : c.map f = c := hmap .cases
  rw [mapBlocks, hb, ho, hh, hf, hc]

theorem everywhere_tidyBlocks_setBlock (hn : ∀ m, Within m n → m.WellFormed) (outer : Span)
    (field : Field) (ns : List Node) :
    ∃ inner, everywhere tidyBlocks outer (n.setBlock field ns) =
      tidyBlocks inner (n.setBlock field (ns.map (everywhere tidyBlocks inner))) := by
  refine ⟨spanWithin outer n.label n.span, ?_⟩
  have hchildren := (forall_within.mp hn).2
  rw [everywhere_eq, label_setBlock, span_setBlock, mapBlocks_setBlock,
    mapBlocks_eq_self fun m hm => everywhere_tidyBlocks_eq_self m (hchildren m hm) _]

private theorem header_put (h : n.at? p = some w) (hk : k.header = w.header) :
    (n.put p k).header = n.header := by
  cases p with
  | nil =>
    obtain rfl := Option.some.inj h
    exact hk
  | cons step p =>
    obtain ⟨-, child, hchild, -⟩ := at?_cons.mp h
    rw [put_cons hchild, header_setBlock]

/-- If one node of a tree in normal form changes inside, there is nothing to tidy but that node. -/
theorem exists_everywhere_put (hn : ∀ m, Within m n → m.WellFormed) (h : n.at? p = some w)
    (hk : k.header = w.header) (outer : Span) :
    ∃ inner, everywhere tidyBlocks outer (n.put p k) =
      n.put p (everywhere tidyBlocks inner k) := by
  induction p generalizing n outer with
  | nil => exact ⟨outer, rfl⟩
  | cons step p ih =>
    obtain ⟨field, i⟩ := step
    obtain ⟨hblock, child, hchild, hrest⟩ := at?_cons.mp h
    obtain ⟨hroot, hbelow⟩ := forall_within.mp hn
    have hmem := n.rawBlock_subset_children field
    have hfixed : ∀ inner, (n.rawBlock field).map (everywhere tidyBlocks inner) =
        n.rawBlock field := by
      intro inner
      rw [List.map_congr_left fun m hm =>
        everywhere_tidyBlocks_eq_self m (hbelow m (hmem hm)) inner, List.map_id']
    rw [put_cons hchild]
    obtain ⟨inner, heq⟩ := everywhere_tidyBlocks_setBlock hn outer field
      ((n.rawBlock field).set i (child.put p k))
    obtain ⟨inner', heq'⟩ := ih (hbelow child (hmem (List.mem_of_getElem? hchild))) hrest inner
    have halike : (child.put p (everywhere tidyBlocks inner' k)).Alike child :=
      alike_of_header (header_put hrest ((header_everywhere_tidyBlocks inner' k).trans hk))
    refine ⟨inner', ?_⟩
    rw [heq, List.map_set, hfixed, heq', put_cons hchild,
      (hroot.set hblock hchild halike).tidyBlocks_eq_self]

end Node

end GeneticRepair.Code
