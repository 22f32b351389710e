import GeneticRepair.Code.Node
import GeneticRepair.Code.Normal

/-!
# Normal form

The rules of a block: one without other code holds at most one empty statement. `tidy` brings every
node of a tree to normal form, whatever the tree, and leaves a tree in normal form as it is.

Every node of a module is reached from it through blocks. What is said of all nodes of a tree is
proved by induction over the nodes directly below one.
-/

namespace GeneticRepair.Code

/-! ## The nodes of a tree -/

namespace Node

def children : Node → List Node
  | mk _ _ _ b o h f c => b ++ o ++ h ++ f ++ c

/-- The first node is the second one, or somewhere below it. -/
inductive Within : Node → Node → Prop
  | self (n : Node) : Within n n
  | under {m child n : Node} (mem : child ∈ n.children) (inner : Within m child) : Within m n

variable {P : Node → Prop}

mutual

private theorem induct (step : ∀ n, (∀ m ∈ n.children, P m) → P n) : ∀ n, P n
  | mk l s ts b o h f c => by
    refine step _ fun m hm => ?_
    simp only [children, List.mem_append] at hm
    rcases hm with (((hm | hm) | hm) | hm) | hm
    · exact inductIn step b m hm
    · exact inductIn step o m hm
    · exact inductIn step h m hm
    · exact inductIn step f m hm
    · exact inductIn step c m hm

private theorem inductIn (step : ∀ n, (∀ m ∈ n.children, P m) → P n) :
    ∀ ns : List Node, ∀ m ∈ ns, P m
  | [] => fun _ hm => nomatch hm
  | n :: ns => fun m hm => by
    rcases List.mem_cons.mp hm with heq | hm
    · exact heq ▸ induct step n
    · exact inductIn step ns m hm

end

/-- What holds of a node if it holds of the nodes directly below holds of every node. -/
@[elab_as_elim]
theorem children_induction (n : Node) (step : ∀ n, (∀ m ∈ n.children, P m) → P n) : P n :=
  induct step n

theorem forall_within {n : Node} :
    (∀ m, Within m n → P m) ↔ P n ∧ ∀ child ∈ n.children, ∀ m, Within m child → P m := by
  constructor
  · intro h
    exact ⟨h n (.self n), fun child hchild m hm => h m (.under hchild hm)⟩
  · rintro ⟨hn, hchildren⟩ m hm
    cases hm with
    | self => exact hn
    | under mem inner => exact hchildren _ mem m inner

theorem mem_children {m n : Node} : m ∈ n.children ↔ ∃ field, m ∈ n.rawBlock field := by
  cases n with
  | mk l s ts b o h f c =>
    simp only [children, List.mem_append]
    constructor
    · rintro ((((hm | hm) | hm) | hm) | hm)
      · exact ⟨.body, hm⟩
      · exact ⟨.orelse, hm⟩
      · exact ⟨.handlers, hm⟩
      · exact ⟨.finalbody, hm⟩
      · exact ⟨.cases, hm⟩
    · rintro ⟨field, hm⟩
      cases field <;> simp_all [rawBlock]

theorem rawBlock_subset_children (n : Node) (field : Field) : n.rawBlock field ⊆ n.children :=
  fun _ hm => mem_children.mpr ⟨field, hm⟩

theorem Within.trans {a b c : Node} (hab : Within a b) (hbc : Within b c) : Within a c := by
  induction hbc with
  | self => exact hab
  | under mem _ ih => exact .under mem ih

end Node

variable {l : Label} {field : Field} {span : Span} {block handlers : List Node} {m : Node}

/-! ## Statements -/

theorem Node.isEmpty_iff : m.isEmpty = true ↔ m.label = .pass ∨
    m.label = .expression ∧ ∃ line ts, m.terms = [.node (.constant .ellipsis) line ts] := by
  obtain ⟨l, s, ts, b, o, h, f, c⟩ := m
  constructor
  · intro hempty
    unfold isEmpty at hempty
    split at hempty
    · rename_i heq
      cases heq
      exact .inl rfl
    · rename_i heq
      cases heq
      exact .inr ⟨rfl, _, _, rfl⟩
    · cases hempty
  · rintro (hl | ⟨hl, line, us, hts⟩)
    · cases hl
      rfl
    · cases hl
      cases hts
      rfl

theorem Node.isText_iff : m.isText = true ↔ m.label = .expression ∧
    ∃ cs marked line ts, m.terms = [.node (.constant (.text cs marked)) line ts] := by
  obtain ⟨l, s, ts, b, o, h, f, c⟩ := m
  constructor
  · intro htext
    unfold isText at htext
    split at htext
    · rename_i heq
      cases heq
      exact ⟨rfl, _, _, _, _, rfl⟩
    · cases htext
  · rintro ⟨hl, cs, marked, line, us, hts⟩
    cases hl
    cases hts
    rfl

theorem not_isEmpty_of_isText (h : m.isText = true) : m.isEmpty = false := by
  obtain ⟨hl, cs, marked, line, ts, hts⟩ := Node.isText_iff.mp h
  rw [Bool.eq_false_iff, ne_eq, Node.isEmpty_iff]
  simp [hl, hts]

/-! ## Blocks -/

/-- An empty statement is the sole code of its block. -/
def SoleEmpty (l : Label) (field : Field) (block : List Node) : Prop :=
  ∀ m ∈ block, m.isEmpty → block.drop (docstrings l field block) = [m]

theorem docstrings_cons (m : Node) (ns : List Node) :
    docstrings l field (m :: ns) =
      if field = .body ∧ l.isDocumentable ∧ m.isText then 1 else 0 :=
  rfl

private theorem docstrings_cons_of_isEmpty (h : m.isEmpty = true) (ns : List Node) :
    docstrings l field (m :: ns) = 0 := by
  rw [docstrings_cons, if_neg]
  rintro ⟨-, -, htext⟩
  rw [not_isEmpty_of_isText htext] at h
  cases h

private theorem docstrings_le_length (l : Label) (field : Field) (block : List Node) :
    docstrings l field block ≤ block.length := by
  cases block with
  | nil => exact Nat.le_refl 0
  | cons m ns =>
    rw [docstrings_cons, List.length_cons]
    split <;> omega

private theorem soleEmpty_singleton_of_isEmpty (h : m.isEmpty = true) : SoleEmpty l field [m] := by
  intro m' hm' _
  rw [docstrings_cons_of_isEmpty h, List.mem_singleton.mp hm', List.drop_zero]

private theorem dropEmpty_eq_self (h : ∀ m ∈ block, m.isEmpty → block = [m]) :
    dropEmpty block = block := by
  unfold dropEmpty
  split
  · rename_i hnone
    cases block with
    | nil => rfl
    | cons m ns =>
      have hm : m.isEmpty = true := by simpa using List.filter_eq_nil_iff.mp hnone m (by simp)
      rw [h m (by simp) hm, List.take_one, List.head?_cons, Option.toList_some]
  · rename_i kept hsome
    rw [List.filter_eq_self]
    intro m hm
    cases hempty : m.isEmpty with
    | false => rfl
    | true =>
      rw [h m hm hempty] at hsome
      simp [hempty] at hsome

private theorem dropEmpty_eq_singleton (hm : m ∈ dropEmpty block) (hempty : m.isEmpty = true) :
    dropEmpty block = [m] := by
  unfold dropEmpty at hm ⊢
  split at hm
  · cases block with
    | nil => cases hm
    | cons n ns =>
      simp only [List.take_one, List.head?_cons, Option.toList_some, List.mem_singleton] at hm ⊢
      rw [hm]
  · have := (List.mem_filter.mp hm).2
    simp [hempty] at this

private theorem soleEmpty_tidyBlock (l : Label) (field : Field) (block : List Node) :
    SoleEmpty l field (tidyBlock l field block) := by
  intro m hm hempty
  unfold tidyBlock at hm ⊢
  cases block with
  | nil => cases hm
  | cons n ns =>
    rw [docstrings_cons] at hm ⊢
    by_cases hdoc : field = .body ∧ l.isDocumentable ∧ n.isText
    · simp only [if_pos hdoc, List.take_succ_cons, List.take_zero, List.drop_succ_cons,
        List.drop_zero, List.cons_append, List.nil_append] at hm ⊢
      rw [docstrings_cons, if_pos hdoc, List.drop_succ_cons, List.drop_zero]
      rcases List.mem_cons.mp hm with rfl | hm
      · rw [not_isEmpty_of_isText hdoc.2.2] at hempty
        cases hempty
      · exact dropEmpty_eq_singleton hm hempty
    · simp only [if_neg hdoc, List.take_zero, List.drop_zero, List.nil_append] at hm ⊢
      rw [dropEmpty_eq_singleton hm hempty, docstrings_cons_of_isEmpty hempty, List.drop_zero]

private theorem tidyBlock_eq_self (h : SoleEmpty l field block) :
    tidyBlock l field block = block := by
  have hdrop : dropEmpty (block.drop (docstrings l field block)) =
      block.drop (docstrings l field block) :=
    dropEmpty_eq_self fun m hm => h m (List.mem_of_mem_drop hm)
  dsimp only [tidyBlock]
  rw [hdrop, List.take_append_drop]

/-! ## Placeholders -/

/-- A block without code is empty or consists of a docstring. -/
theorem eq_singleton_of_docstrings_eq (h : docstrings l field block = block.length)
    (hne : block ≠ []) :
    ∃ m, block = [m] ∧ field = .body ∧ l.isDocumentable ∧ m.isText := by
  cases block with
  | nil => exact absurd rfl hne
  | cons m ns =>
    rw [docstrings_cons, List.length_cons] at h
    split at h
    · rename_i hdoc
      obtain rfl : ns = [] := List.eq_nil_of_length_eq_zero (by omega)
      exact ⟨m, rfl, hdoc⟩
    · omega

theorem fillBody_of_getLast? {last : Node} (l : Label) (span : Span)
    (h : block.getLast? = some last) :
    fillBody l span block = block ∨ l.isFunction ∧ docstrings l .body block = block.length ∧
      fillBody l span block = block ++ [.placeholder last.span] := by
  unfold fillBody
  split
  · exact .inl rfl
  · rw [h]
    dsimp only
    split
    · rename_i hcode
      exact .inr ⟨hcode.1, hcode.2, rfl⟩
    · exact .inl rfl

private theorem soleEmpty_fillBody (h : SoleEmpty l .body block) :
    SoleEmpty l .body (fillBody l span block) := by
  cases hlast : block.getLast? with
  | none =>
    rw [List.getLast?_eq_none_iff.mp hlast] at h ⊢
    unfold fillBody
    split
    · exact h
    · exact soleEmpty_singleton_of_isEmpty (Node.isEmpty_placeholder span)
  | some last =>
    rcases fillBody_of_getLast? l span hlast with heq | ⟨-, hcode, heq⟩
    · rwa [heq]
    · have hne : block ≠ [] := by
        rintro rfl
        cases hlast
      obtain ⟨t, rfl, hdoc⟩ := eq_singleton_of_docstrings_eq hcode hne
      rw [heq, List.singleton_append]
      intro m hm hempty
      rw [docstrings_cons, if_pos hdoc, List.drop_succ_cons, List.drop_zero]
      rcases List.mem_cons.mp hm with rfl | hm
      · rw [not_isEmpty_of_isText hdoc.2.2] at hempty
        cases hempty
      · rw [List.mem_singleton.mp hm]

private theorem fillBody_ne_nil (hmodule : l ≠ .module) (hbody : .body ∈ l.fields) :
    fillBody l span block ≠ [] := by
  unfold fillBody
  rw [if_neg (by simp [hmodule, hbody])]
  split
  · exact List.cons_ne_nil _ _
  · rename_i hlast
    split
    · simp
    · rintro rfl
      cases hlast

private theorem docstrings_fillBody_lt (hfunction : l.isFunction) :
    docstrings l .body (fillBody l span block) < (fillBody l span block).length := by
  have hfill : ¬ (l = .module ∨ .body ∉ l.fields) := by
    cases l <;> simp [Label.isFunction, Label.fields] at hfunction ⊢
  unfold fillBody
  rw [if_neg hfill]
  split
  · rw [docstrings_cons_of_isEmpty (Node.isEmpty_placeholder span)]
    exact Nat.one_pos
  · rename_i last hlast
    split
    · rename_i hcode
      have hne : block ≠ [] := by
        rintro rfl
        cases hlast
      obtain ⟨t, rfl, hdoc⟩ := eq_singleton_of_docstrings_eq hcode.2 hne
      rw [List.singleton_append, docstrings_cons, if_pos hdoc]
      exact Nat.one_lt_two
    · rename_i hcode
      have hle := docstrings_le_length l .body block
      have hlength : docstrings l .body block ≠ block.length := fun h => hcode ⟨hfunction, h⟩
      omega

theorem fillBody_eq_self (hne : l ≠ .module → .body ∈ l.fields → block ≠ [])
    (hcode : l.isFunction → docstrings l .body block < block.length) :
    fillBody l span block = block := by
  cases hlast : block.getLast? with
  | none =>
    rw [List.getLast?_eq_none_iff] at hlast
    unfold fillBody
    rw [if_pos]
    by_cases hmodule : l = .module
    · exact .inl hmodule
    · exact .inr fun hbody => hne hmodule hbody hlast
  | some last =>
    rcases fillBody_of_getLast? l span hlast with heq | ⟨hfunction, hlength, -⟩
    · exact heq
    · have hlt := hcode hfunction
      omega

private theorem soleEmpty_fillFinal (h : SoleEmpty l .finalbody block) :
    SoleEmpty l .finalbody (fillFinal l span handlers block) := by
  unfold fillFinal
  split
  · exact soleEmpty_singleton_of_isEmpty (Node.isEmpty_placeholder span)
  · exact h

/-! ## Nodes -/

namespace Node

/-- The rules of the grammar of blocks, for one node. -/
structure WellFormed (n : Node) : Prop where
  body_ne_nil : n.label ≠ .module → .body ∈ n.label.fields → n.rawBlock .body ≠ []
  closed : n.label.isTry → n.rawBlock .handlers ≠ [] ∨ n.rawBlock .finalbody ≠ []
  soleEmpty : ∀ field ∈ [Field.body, .orelse, .finalbody],
    SoleEmpty n.label field (n.rawBlock field)
  code : n.label.isFunction →
    docstrings n.label .body (n.rawBlock .body) < (n.rawBlock .body).length

theorem wellFormed_placeholder (span : Span) : (placeholder span).WellFormed where
  body_ne_nil _ h := nomatch h
  closed h := nomatch h
  soleEmpty := by
    intro field hfield m hm
    simp only [List.mem_cons, List.not_mem_nil, or_false] at hfield
    rcases hfield with rfl | rfl | rfl <;> cases hm
  code h := nomatch h

private theorem wellFormed_tidyBlocks (span : Span) (n : Node) :
    (tidyBlocks span n).WellFormed := by
  obtain ⟨l, s, ts, b, o, h, f, c⟩ := n
  constructor
  · exact fun hmodule hbody => fillBody_ne_nil hmodule hbody
  · intro htry
    by_cases hempty : h = [] ∧ tidyBlock l .finalbody f = []
    · right
      show fillFinal l span h (tidyBlock l .finalbody f) ≠ []
      rw [fillFinal, if_pos ⟨htry, hempty⟩]
      exact List.cons_ne_nil _ _
    · by_cases hh : h = []
      · right
        show fillFinal l span h (tidyBlock l .finalbody f) ≠ []
        rw [fillFinal, if_neg fun hall => hempty hall.2]
        exact fun hf => hempty ⟨hh, hf⟩
      · exact .inl hh
  · intro field hfield
    simp only [List.mem_cons, List.not_mem_nil, or_false] at hfield
    rcases hfield with rfl | rfl | rfl
    · exact soleEmpty_fillBody (soleEmpty_tidyBlock l .body b)
    · exact soleEmpty_tidyBlock l .orelse o
    · exact soleEmpty_fillFinal (soleEmpty_tidyBlock l .finalbody f)
  · exact fun hfunction => docstrings_fillBody_lt hfunction

theorem WellFormed.tidyBlocks_eq_self {n : Node} (hn : n.WellFormed) (span : Span) :
    tidyBlocks span n = n := by
  obtain ⟨l, s, ts, b, o, h, f, c⟩ := n
  have hb : tidyBlock l .body b = b := tidyBlock_eq_self (hn.soleEmpty .body (by simp))
  have ho : tidyBlock l .orelse o = o := tidyBlock_eq_self (hn.soleEmpty .orelse (by simp))
  have hf : tidyBlock l .finalbody f = f := tidyBlock_eq_self (hn.soleEmpty .finalbody (by simp))
  have hbody : fillBody l span b = b := fillBody_eq_self hn.body_ne_nil hn.code
  have hfinal : fillFinal l span h f = f := by
    rw [fillFinal, if_neg]
    rintro ⟨htry, rfl, rfl⟩
    rcases hn.closed htry with hne | hne
    · exact hne rfl
    · exact hne rfl
  rw [tidyBlocks, fill, hb, ho, hf, hbody, hfinal]

/-! ## Trees -/

theorem everywhere_mk (f : Span → Node → Node) (outer : Span) (l : Label) (s : Span)
    (ts : List Term) (b o h fb c : List Node) :
    everywhere f outer (mk l s ts b o h fb c) =
      let below := everywhere f (spanWithin outer l s)
      f (spanWithin outer l s)
        (mk l s ts (b.map below) (o.map below) (h.map below) (fb.map below) (c.map below)) := by
  simp only [everywhere, everywhereIn_eq_map]

theorem label_fill (span : Span) (n : Node) : (fill span n).label = n.label := by
  cases n
  rfl

theorem terms_fill (span : Span) (n : Node) : (fill span n).terms = n.terms := by
  cases n
  rfl

theorem label_tidyBlocks (span : Span) (n : Node) : (tidyBlocks span n).label = n.label := by
  cases n
  rfl

theorem terms_tidyBlocks (span : Span) (n : Node) : (tidyBlocks span n).terms = n.terms := by
  cases n
  rfl

theorem mem_fillBody (h : m ∈ fillBody l span block) : m ∈ block ∨ ∃ s, m = placeholder s := by
  unfold fillBody at h
  split at h
  · exact .inl h
  · split at h
    · exact .inr ⟨span, List.mem_singleton.mp h⟩
    · rename_i last _
      split at h
      · rcases List.mem_append.mp h with h | h
        · exact .inl h
        · exact .inr ⟨last.span, List.mem_singleton.mp h⟩
      · exact .inl h

theorem mem_fillFinal (h : m ∈ fillFinal l span handlers block) :
    m ∈ block ∨ ∃ s, m = placeholder s := by
  unfold fillFinal at h
  split at h
  · exact .inr ⟨span, List.mem_singleton.mp h⟩
  · exact .inl h

private theorem mem_dropEmpty (h : m ∈ dropEmpty block) : m ∈ block := by
  unfold dropEmpty at h
  split at h
  · exact List.mem_of_mem_take h
  · exact (List.mem_filter.mp h).1

theorem mem_tidyBlock (h : m ∈ tidyBlock l field block) : m ∈ block := by
  rcases List.mem_append.mp h with h | h
  · exact List.mem_of_mem_take h
  · exact List.mem_of_mem_drop (mem_dropEmpty h)

/-- Filling the blocks of a node adds nothing but placeholders. -/
theorem mem_children_fill {n : Node} (h : m ∈ (fill span n).children) :
    m ∈ n.children ∨ ∃ s, m = placeholder s := by
  obtain ⟨l, s, ts, b, o, hs, f, c⟩ := n
  simp only [fill, children, List.mem_append] at h ⊢
  rcases h with (((h | h) | h) | h) | h
  · exact (mem_fillBody h).imp_left fun h => by simp [h]
  · simp [h]
  · simp [h]
  · exact (mem_fillFinal h).imp_left fun h => by simp [h]
  · simp [h]

theorem mem_children_tidyBlocks {n : Node} (h : m ∈ (tidyBlocks span n).children) :
    m ∈ n.children ∨ ∃ s, m = placeholder s := by
  obtain ⟨l, s, ts, b, o, hs, f, c⟩ := n
  have hfill : m ∈ (fill span (mk l s ts (tidyBlock l .body b) (tidyBlock l .orelse o) hs
      (tidyBlock l .finalbody f) c)).children := h
  refine (mem_children_fill hfill).imp_left fun h => ?_
  simp only [children, List.mem_append] at h ⊢
  rcases h with (((h | h) | h) | h) | h
  · simp [mem_tidyBlock h]
  · simp [mem_tidyBlock h]
  · simp [h]
  · simp [mem_tidyBlock h]
  · simp [h]

theorem within_placeholder (h : Within m (placeholder span)) : m = placeholder span := by
  cases h with
  | self => rfl
  | under mem _ => cases mem

/-- Where a function is applied that adds nothing but placeholders, nothing else is found than these
and what becomes of the nodes. -/
theorem within_everywhere {g : Span → Node → Node}
    (hchildren : ∀ span n m, m ∈ (g span n).children → m ∈ n.children ∨ ∃ s, m = placeholder s)
    {n : Node} {outer : Span} (h : Within m (everywhere g outer n)) :
    (∃ s, m = placeholder s) ∨ ∃ k span, Within k n ∧ m = everywhere g span k := by
  induction n using children_induction generalizing outer with
  | step n ih =>
    obtain ⟨l, s, ts, b, o, hs, f, c⟩ := n
    rw [everywhere_mk] at h
    cases h with
    | self => exact .inr ⟨_, outer, .self _, (everywhere_mk g outer l s ts b o hs f c).symm⟩
    | under mem inner =>
      rcases hchildren _ _ _ mem with mem | ⟨s', rfl⟩
      · simp only [children, ← List.map_append] at mem
        obtain ⟨n, hn, rfl⟩ := List.mem_map.mp mem
        exact (ih n hn inner).imp_right fun ⟨k, span, hk, heq⟩ => ⟨k, span, .under hn hk, heq⟩
      · exact .inl ⟨s', within_placeholder inner⟩

theorem wellFormed_everywhere_tidyBlocks (n : Node) (outer : Span) :
    ∀ m, Within m (everywhere tidyBlocks outer n) → m.WellFormed := by
  intro m hm
  rcases within_everywhere (fun _ _ _ => mem_children_tidyBlocks) hm with
    ⟨s, rfl⟩ | ⟨k, span, -, rfl⟩
  · exact wellFormed_placeholder s
  · cases k
    rw [everywhere_mk]
    exact wellFormed_tidyBlocks _ _

/-- Every node of a tidied module follows the rules, whatever the module. -/
theorem wellFormed_tidy (module : Node) : ∀ m, Within m module.tidy → m.WellFormed :=
  wellFormed_everywhere_tidyBlocks module outermost

theorem everywhere_tidyBlocks_eq_self (n : Node) (h : ∀ m, Within m n → m.WellFormed)
    (outer : Span) : everywhere tidyBlocks outer n = n := by
  induction n using children_induction generalizing outer with
  | step n ih =>
    obtain ⟨hn, hchildren⟩ := forall_within.mp h
    have hmap : ∀ field inner,
        (n.rawBlock field).map (everywhere tidyBlocks inner) = n.rawBlock field := by
      intro field inner
      rw [List.map_congr_left fun m hm => ih m (n.rawBlock_subset_children field hm)
        (hchildren m (n.rawBlock_subset_children field hm)) inner, List.map_id']
    obtain ⟨l, s, ts, b, o, hs, f, c⟩ := n
    have hb : b.map _ = b := hmap .body (spanWithin outer l s)
    have ho : o.map _ = o := hmap .orelse (spanWithin outer l s)
    have hh : hs.map _ = hs := hmap .handlers (spanWithin outer l s)
    have hf : f.map _ = f := hmap .finalbody (spanWithin outer l s)
    have hc : c.map _ = c := hmap .cases (spanWithin outer l s)
    rw [everywhere_mk]
    dsimp only
    rw [hb, ho, hh, hf, hc]
    exact hn.tidyBlocks_eq_self _

theorem tidy_eq_self (module : Node) (h : ∀ m, Within m module → m.WellFormed) :
    module.tidy = module :=
  everywhere_tidyBlocks_eq_self module h outermost

theorem tidy_tidy (module : Node) : module.tidy.tidy = module.tidy :=
  tidy_eq_self module.tidy (wellFormed_tidy module)

end Node

end GeneticRepair.Code
