import GeneticRepair.Proofs.Code.Stripped

/-!
# Docstrings

The docstrings of a tree, each with the labels of the nodes that it stands in. Bringing a module to
normal form may make a docstring of a text behind an empty statement, but unmakes none, and neither
does an edit of a statement that is no docstring itself.
-/

namespace GeneticRepair.Code

variable {l : Label} {field : Field} {span : Span} {block : List Node}

def heading (l : Label) (body : List Node) : List Node :=
  body.take (docstrings l .body body)

private theorem heading_cons (d : Node) (ns : List Node) :
    heading l (d :: ns) = if l.isDocumentable ∧ d.isText then [d] else [] := by
  rw [heading, docstrings_cons]
  simp only [true_and]
  split <;> rfl

private theorem heading_sublist_of_head {d : Node} {ns ns' : List Node} :
    (heading l (d :: ns)).Sublist (heading l (d :: ns')) := by
  simp only [heading_cons, List.Sublist.refl]

private theorem heading_tidyBlock (l : Label) (block : List Node) :
    (heading l block).Sublist (heading l (tidyBlock l .body block)) := by
  cases block with
  | nil => exact List.nil_sublist _
  | cons d ns =>
    by_cases hdoc : l.isDocumentable = true ∧ d.isText = true
    · have htidy : tidyBlock l .body (d :: ns) = d :: dropEmpty ns := by
        simp [tidyBlock, docstrings_cons, hdoc]
      rw [htidy]
      exact heading_sublist_of_head
    · rw [heading_cons, if_neg hdoc]
      exact List.nil_sublist _

private theorem heading_fillBody (l : Label) (span : Span) (block : List Node) :
    (heading l block).Sublist (heading l (fillBody l span block)) := by
  cases block with
  | nil => exact List.nil_sublist _
  | cons d ns =>
    have hsome : (d :: ns).getLast?.isSome = true := by simp
    obtain ⟨last, hlast⟩ := Option.isSome_iff_exists.mp hsome
    rcases fillBody_of_getLast? l span hlast with heq | ⟨-, -, heq⟩
    · simp only [heq, List.Sublist.refl]
    · rw [heq]
      exact heading_sublist_of_head

private theorem heading_map {f : Node → Node} (h : ∀ d ∈ block, d.isText = true → f d = d) :
    (heading l block).Sublist (heading l (block.map f)) := by
  cases block with
  | nil => exact List.nil_sublist _
  | cons d ns =>
    by_cases hdoc : l.isDocumentable = true ∧ d.isText = true
    · rw [List.map_cons, h d (by simp) hdoc.2]
      exact heading_sublist_of_head
    · rw [heading_cons, if_neg hdoc]
      exact List.nil_sublist _

namespace Node

variable {n m k holder : Node} {around : List Label} {p q : Place} {i : Nat}

mutual

def docsIn (around : List Label) : Node → List (List Label × Node)
  | mk l _ _ b o h f c =>
    (heading l b).map (around ++ [l], ·) ++ docsInAll (around ++ [l]) b ++
      docsInAll (around ++ [l]) o ++ docsInAll (around ++ [l]) h ++ docsInAll (around ++ [l]) f ++
      docsInAll (around ++ [l]) c

def docsInAll (around : List Label) : List Node → List (List Label × Node)
  | [] => []
  | n :: ns => docsIn around n ++ docsInAll around ns

end

def docs (module : Node) : List (List Label × Node) :=
  module.docsIn []

private theorem docsInAll_append (around : List Label) (ns ms : List Node) :
    docsInAll around (ns ++ ms) = docsInAll around ns ++ docsInAll around ms := by
  induction ns with
  | nil => rfl
  | cons n ns ih => simp [docsInAll, ih]

private theorem docsIn_eq (around : List Label) (n : Node) :
    n.docsIn around = (heading n.label (n.rawBlock .body)).map (around ++ [n.label], ·) ++
      docsInAll (around ++ [n.label]) n.children := by
  cases n
  simp only [docsIn, children, docsInAll_append, label_mk, rawBlock, List.append_assoc]

theorem children_eq_nil (hn : n.Plain) (hfields : n.label.fields = []) : n.children = [] := by
  have hnil : ∀ field, n.rawBlock field = [] := fun field =>
    hn.rawBlock_eq_nil field (by simp [hfields])
  refine List.eq_nil_iff_forall_not_mem.mpr fun m hm => ?_
  obtain ⟨field, hm⟩ := mem_children.mp hm
  rw [hnil field] at hm
  cases hm

theorem docsIn_eq_nil (hn : n.Plain) (hfields : n.label.fields = []) : n.docsIn around = [] := by
  rw [docsIn_eq, children_eq_nil hn hfields, hn.rawBlock_eq_nil .body (by simp [hfields])]
  rfl

private theorem fields_of_isText (h : n.isText = true) : n.label.fields = [] := by
  rw [(isText_iff.mp h).1]
  rfl

/-! ## Tidying -/

private theorem docsInAll_substance {ns : List Node} (hns : ∀ m ∈ ns, m.Shaped)
    (around : List Label) :
    docsInAll around (substance ns) = docsInAll around ns := by
  induction ns with
  | nil => rfl
  | cons n ns ih =>
    have htail := ih fun m hm => hns m (List.mem_cons_of_mem n hm)
    cases hempty : n.isEmpty with
    | true =>
      have hn := (shaped_iff.mp (hns n List.mem_cons_self)).1
      rw [docsInAll, docsIn_eq_nil hn (fields_of_isEmpty hempty), List.nil_append, ← htail]
      simp [substance, hempty]
    | false =>
      rw [docsInAll, ← htail]
      simp [substance, hempty, docsInAll]

private theorem docsInAll_eq_of_substance {ns ms : List Node} (hns : ∀ m ∈ ns, m.Shaped)
    (hms : ∀ m ∈ ms, m.Shaped) (h : substance ns = substance ms) (around : List Label) :
    docsInAll around ns = docsInAll around ms := by
  rw [← docsInAll_substance hns, h, docsInAll_substance hms]

private theorem docsInAll_map_sublist {f : Node → Node} {ns : List Node}
    (h : ∀ m ∈ ns, (m.docsIn around).Sublist ((f m).docsIn around)) :
    (docsInAll around ns).Sublist (docsInAll around (ns.map f)) := by
  induction ns with
  | nil => exact List.Sublist.refl _
  | cons n ns ih =>
    rw [List.map_cons, docsInAll, docsInAll]
    exact (h n List.mem_cons_self).append (ih fun m hm => h m (List.mem_cons_of_mem n hm))

private theorem everywhere_tidyBlocks_of_fields (hn : n.Shaped) (hfields : n.label.fields = [])
    (outer : Span) : everywhere tidyBlocks outer n = n := by
  have hplain := (shaped_iff.mp hn).1
  have hnil : ∀ field, n.rawBlock field = [] := fun field =>
    hplain.rawBlock_eq_nil field (by simp [hfields])
  refine everywhere_tidyBlocks_eq_self n (fun m hm => ?_) outer
  cases hm with
  | under mem _ =>
    rw [children_eq_nil hplain hfields] at mem
    cases mem
  | self =>
    constructor
    · simp [hfields]
    · intro htry
      have hmem := finalbody_mem_fields htry
      rw [hfields] at hmem
      cases hmem
    · intro field _ m hm
      rw [hnil field] at hm
      cases hm
    · intro hfunction
      cases hl : n.label <;> simp_all [Label.isFunction, Label.fields]

private theorem docsIn_everywhere_tidyBlocks (hn : n.Shaped) (outer : Span) (around : List Label) :
    (n.docsIn around).Sublist ((everywhere tidyBlocks outer n).docsIn around) := by
  induction n using children_induction generalizing outer around with
  | step n ih =>
    obtain ⟨l, s, ts, b, o, h, f, c⟩ := n
    have hsub := rawBlock_subset_children (mk l s ts b o h f c)
    have hshaped : ∀ ns : List Node, ns ⊆ (mk l s ts b o h f c).children →
        ∀ m ∈ ns.map (everywhere tidyBlocks (spanWithin outer l s)), m.Shaped := by
      intro ns hns m hm
      obtain ⟨k, hk, rfl⟩ := List.mem_map.mp hm
      exact shaped_everywhere_tidyBlocks (hn.of_mem (hns hk)) _
    have hbelow : ∀ ns : List Node, ns ⊆ (mk l s ts b o h f c).children →
        (docsInAll (around ++ [l]) ns).Sublist
          (docsInAll (around ++ [l]) (ns.map (everywhere tidyBlocks (spanWithin outer l s)))) :=
      fun ns hns => docsInAll_map_sublist fun m hm => ih m (hns hm) (hn.of_mem (hns hm)) _ _
    have hblock : ∀ ns ns' : List Node, ns ⊆ (mk l s ts b o h f c).children →
        (∀ m ∈ ns', m ∈ ns.map (everywhere tidyBlocks (spanWithin outer l s)) ∨
          ∃ s', m = placeholder s') →
        substance ns' = substance (ns.map (everywhere tidyBlocks (spanWithin outer l s))) →
        (docsInAll (around ++ [l]) ns).Sublist (docsInAll (around ++ [l]) ns') := by
      intro ns ns' hns hmem hns'
      have hshaped' : ∀ m ∈ ns', m.Shaped := by
        intro m hm
        rcases hmem m hm with hm | ⟨s', rfl⟩
        · exact hshaped ns hns m hm
        · exact shaped_placeholder
      rw [docsInAll_eq_of_substance hshaped' (hshaped ns hns) hns']
      exact hbelow ns hns
    have hhead : (heading l b).Sublist (heading l (fillBody l (spanWithin outer l s)
        (tidyBlock l .body (b.map (everywhere tidyBlocks (spanWithin outer l s)))))) := by
      have hmap : ∀ d ∈ b, d.isText = true →
          everywhere tidyBlocks (spanWithin outer l s) d = d := fun d hd htext =>
        everywhere_tidyBlocks_of_fields (hn.of_mem (hsub .body hd)) (fields_of_isText htext) _
      exact ((heading_map hmap).trans (heading_tidyBlock l _)).trans (heading_fillBody l _ _)
    rw [everywhere_mk]
    dsimp only
    rw [tidyBlocks, fill, docsIn, docsIn]
    refine (((((hhead.map _).append ?_).append ?_).append ?_).append ?_).append ?_
    · refine hblock b _ (hsub .body) (fun m hm => ?_) ?_
      · exact (mem_fillBody hm).imp_left mem_tidyBlock
      · rw [substance_fillBody, substance_tidyBlock]
    · refine hblock o _ (hsub .orelse) (fun m hm => .inl (mem_tidyBlock hm)) ?_
      rw [substance_tidyBlock]
    · exact hbelow h (hsub .handlers)
    · refine hblock f _ (hsub .finalbody) (fun m hm => ?_) ?_
      · exact (mem_fillFinal hm).imp_left mem_tidyBlock
      · rw [substance_fillFinal, substance_tidyBlock]
    · exact hbelow c (hsub .cases)

/-- Normal form keeps the docstrings of a module. -/
theorem docs_tidy {module : Node} (h : module.Shaped) :
    module.docs.Sublist module.tidy.docs :=
  docsIn_everywhere_tidyBlocks h outermost []

/-! ## Splicing -/

theorem setBlock_rawBlock (n : Node) (field : Field) : n.setBlock field (n.rawBlock field) = n := by
  cases n
  cases field <;> rfl

private theorem exists_children_setBlock (h : n.hasBlock field = true) :
    ∃ before after, ∀ ns, (n.setBlock field ns).children = before ++ ns ++ after := by
  obtain ⟨l, s, ts, b, o, hs, f, c⟩ := n
  cases field with
  | body => exact ⟨[], o ++ hs ++ f ++ c, fun ns => by simp [setBlock, children]⟩
  | orelse => exact ⟨b, hs ++ f ++ c, fun ns => by simp [setBlock, children]⟩
  | handlers => exact ⟨b ++ o, f ++ c, fun ns => by simp [setBlock, children]⟩
  | finalbody => exact ⟨b ++ o ++ hs, c, fun ns => by simp [setBlock, children]⟩
  | cases => exact ⟨b ++ o ++ hs ++ f, [], fun ns => by simp [setBlock, children]⟩
  | other => cases l <;> simp [hasBlock, Label.fields] at h
  | nameless => cases l <;> simp [hasBlock, Label.fields] at h

/-- A splice into a block changes the children in one place. -/
theorem exists_children_splice_singleton (h : n.hasBlock field = true)
    (hm : (n.rawBlock field)[i]? = some m) :
    ∃ before after, n.children = before ++ m :: after ∧
      ∀ new, (n.splice [(field, i)] new).children = before ++ new ++ after := by
  obtain ⟨before, after, hchildren⟩ := exists_children_setBlock h
  have hself : n.children = before ++ n.rawBlock field ++ after := by
    rw [← hchildren, setBlock_rawBlock]
  rw [← take_append_cons_drop hm] at hself
  refine ⟨before ++ (n.rawBlock field).take i, (n.rawBlock field).drop (i + 1) ++ after, ?_,
    fun new => ?_⟩
  · rw [hself]
    simp only [List.append_assoc, List.cons_append]
  · rw [splice_step, hchildren]
    simp only [List.append_assoc]

private theorem heading_setBlock (h : n.hasBlock field = true)
    (hm : (n.rawBlock field)[i]? = some m)
    (hdoc : docstrings n.label field (n.rawBlock field) ≤ i) (new : List Node) :
    (heading n.label (n.rawBlock .body)).Sublist (heading n.label ((n.setBlock field
      ((n.rawBlock field).take i ++ new ++ (n.rawBlock field).drop (i + 1))).rawBlock .body)) := by
  by_cases hfield : field = .body
  · subst hfield
    rw [rawBlock_setBlock_self _ h]
    cases hblock : n.rawBlock .body with
    | nil => exact List.nil_sublist _
    | cons d ns =>
      cases i with
      | zero =>
        rw [hblock, Nat.le_zero] at hdoc
        rw [heading, hdoc]
        exact List.nil_sublist _
      | succ i => exact heading_sublist_of_head
  · simp only [rawBlock_setBlock_of_ne _ _ (Ne.symm hfield), List.Sublist.refl]

private theorem exists_docsIn_splice_singleton (h : n.hasBlock field = true)
    (hm : (n.rawBlock field)[i]? = some m)
    (hdoc : docstrings n.label field (n.rawBlock field) ≤ i) (around : List Label) :
    ∃ before after, n.docsIn around = before ++ m.docsIn (around ++ [n.label]) ++ after ∧
      ∀ new, (before ++ docsInAll (around ++ [n.label]) new ++ after).Sublist
        ((n.splice [(field, i)] new).docsIn around) := by
  obtain ⟨before, after, hself, hspliced⟩ := exists_children_splice_singleton h hm
  refine ⟨(heading n.label (n.rawBlock .body)).map (around ++ [n.label], ·) ++
    docsInAll (around ++ [n.label]) before, docsInAll (around ++ [n.label]) after, ?_,
    fun new => ?_⟩
  · rw [docsIn_eq, hself]
    simp only [docsInAll_append, docsInAll, List.append_assoc]
  · have hhead := (heading_setBlock h hm hdoc new).map (around ++ [n.label], ·)
    rw [docsIn_eq, hspliced, splice_step, label_setBlock]
    simpa only [docsInAll_append, List.append_assoc] using
      hhead.append (List.Sublist.refl (docsInAll (around ++ [n.label]) (before ++ new ++ after)))

theorem splice_cons {child : Node} (hchild : (n.rawBlock field)[i]? = some child) (hp : p ≠ [])
    (new : List Node) : n.splice ((field, i) :: p) new =
      n.splice [(field, i)] [child.splice p new] := by
  cases p with
  | nil => exact absurd rfl hp
  | cons step p =>
    have hmodify := modify_eq_set
      (updateAt (fun ns i => ns.take i ++ new ++ ns.drop (i + 1)) · (step :: p)) hchild
    rw [List.set_eq_take_append_cons_drop, if_pos (List.getElem?_eq_some_iff.mp hchild).1,
      List.append_cons] at hmodify
    exact congrArg (n.setBlock field) hmodify

/-- The docstrings around a node that is none itself are kept, whatever takes its place. -/
theorem exists_docsIn_splice (hat : n.at? p = some holder) (h : holder.hasBlock field = true)
    (hm : (holder.rawBlock field)[i]? = some m)
    (hdoc : docstrings holder.label field (holder.rawBlock field) ≤ i) (around : List Label) :
    ∃ before after inner, n.docsIn around = before ++ m.docsIn inner ++ after ∧
      ∀ new, (before ++ docsInAll inner new ++ after).Sublist
        ((n.splice (p ++ [(field, i)]) new).docsIn around) := by
  induction p generalizing n around with
  | nil =>
    obtain rfl := Option.some.inj hat
    obtain ⟨before, after, heq, hsub⟩ := exists_docsIn_splice_singleton h hm hdoc around
    exact ⟨before, after, _, heq, hsub⟩
  | cons step p ih =>
    obtain ⟨field', j⟩ := step
    obtain ⟨hblock, child, hchild, hrest⟩ := at?_cons.mp hat
    have hchilddoc : docstrings n.label field' (n.rawBlock field') ≤ j := by
      by_contra hlt
      obtain ⟨-, -, -, htext⟩ := (lt_docstrings_iff hchild).mp (Nat.lt_of_not_le hlt)
      have hfields := fields_of_isText htext
      cases p with
      | nil =>
        obtain rfl := Option.some.inj hrest
        simp [hasBlock, hfields] at h
      | cons step p =>
        obtain ⟨hblock', -⟩ := at?_cons.mp hrest
        simp [hasBlock, hfields] at hblock'
    obtain ⟨before, after, heq, hsub⟩ :=
      exists_docsIn_splice_singleton hblock hchild hchilddoc around
    obtain ⟨before', after', inner, heq', hsub'⟩ := ih hrest (around ++ [n.label])
    refine ⟨before ++ before', after' ++ after, inner, ?_, fun new => ?_⟩
    · rw [heq, heq']
      simp only [List.append_assoc]
    · rw [List.cons_append, splice_cons hchild (by simp)]
      refine List.Sublist.trans ?_ (hsub [child.splice (p ++ [(field, i)]) new])
      have hmid := ((List.Sublist.refl before).append (hsub' new)).append (List.Sublist.refl after)
      simpa [docsInAll, List.append_assoc] using hmid

end Node

end GeneticRepair.Code
