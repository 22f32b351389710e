import GeneticRepair.Proofs.Code.Edit

/-!
# Code without empty statements

What is left of a module when the empty statements are taken out of all its blocks. Normal form adds
and drops nothing but empty statements, so it leaves this as it is, whatever the module.
-/

namespace GeneticRepair.Code

variable {l : Label} {field : Field} {span : Span} {block handlers : List Node}

/-- The statements of a block that are not empty. -/
def substance (block : List Node) : List Node :=
  block.filter (!·.isEmpty)

private theorem substance_append (a b : List Node) :
    substance (a ++ b) = substance a ++ substance b :=
  List.filter_append a b

private theorem substance_placeholder (span : Span) : substance [.placeholder span] = [] :=
  rfl

private theorem substance_dropEmpty (code : List Node) :
    substance (dropEmpty code) = substance code := by
  unfold dropEmpty
  split
  · rename_i hnone
    have hnone' : substance code = [] := hnone
    have hsub : (substance (code.take 1)).Sublist (substance code) :=
      (List.take_sublist 1 code).filter _
    rw [hnone'] at hsub ⊢
    exact List.sublist_nil.mp hsub
  · rename_i kept _
    exact List.filter_filter.trans (by simp [substance])

theorem substance_tidyBlock (l : Label) (field : Field) (block : List Node) :
    substance (tidyBlock l field block) = substance block := by
  dsimp only [tidyBlock]
  rw [substance_append, substance_dropEmpty, ← substance_append, List.take_append_drop]

theorem substance_fillBody (l : Label) (span : Span) (block : List Node) :
    substance (fillBody l span block) = substance block := by
  cases hlast : block.getLast? with
  | none =>
    rw [List.getLast?_eq_none_iff.mp hlast]
    unfold fillBody
    split <;> rfl
  | some last =>
    rcases fillBody_of_getLast? l span hlast with heq | ⟨-, -, heq⟩
    · rw [heq]
    · rw [heq, substance_append, substance_placeholder, List.append_nil]

theorem substance_fillFinal (l : Label) (span : Span) (handlers block : List Node) :
    substance (fillFinal l span handlers block) = substance block := by
  unfold fillFinal
  split
  · rename_i hnone
    rw [hnone.2.2, substance_placeholder]
    rfl
  · rfl

private theorem flatMap_eq_of_substance {α : Type} {f : Node → List α} {ns ms : List Node}
    (h : substance ns = substance ms) (hns : ∀ m ∈ ns, m.isEmpty → f m = [])
    (hms : ∀ m ∈ ms, m.isEmpty → f m = []) : ns.flatMap f = ms.flatMap f := by
  have hsubstance : ∀ ns : List Node, (∀ m ∈ ns, m.isEmpty → f m = []) →
      (substance ns).flatMap f = ns.flatMap f := by
    intro ns hns
    induction ns with
    | nil => rfl
    | cons n ns ih =>
      obtain ⟨hn, hns⟩ := List.forall_mem_cons.mp hns
      cases hempty : n.isEmpty with
      | true => simpa [substance, hempty, hn hempty] using ih hns
      | false => simpa [substance, hempty] using ih hns
  rw [← hsubstance ns hns, h, hsubstance ms hms]

namespace Node

variable {n m : Node}

/-! ## Blocks -/

theorem children_eq (n : Node) :
    n.children = [Field.body, .orelse, .handlers, .finalbody, .cases].flatMap n.rawBlock := by
  cases n
  simp [children, rawBlock]

private theorem rawBlock_everywhere_tidyBlocks (outer : Span) (n : Node) (field : Field) :
    substance ((everywhere tidyBlocks outer n).rawBlock field) = substance
        ((n.rawBlock field).map (everywhere tidyBlocks (spanWithin outer n.label n.span))) ∧
      ∀ m ∈ (everywhere tidyBlocks outer n).rawBlock field,
        m ∈ (n.rawBlock field).map (everywhere tidyBlocks (spanWithin outer n.label n.span)) ∨
          ∃ s, m = placeholder s := by
  obtain ⟨l, s, ts, b, o, h, f, c⟩ := n
  rw [everywhere_mk]
  cases field with
  | body =>
    exact ⟨(substance_fillBody l _ _).trans (substance_tidyBlock l .body _),
      fun m hm => (mem_fillBody hm).imp_left mem_tidyBlock⟩
  | orelse => exact ⟨substance_tidyBlock l .orelse _, fun m hm => .inl (mem_tidyBlock hm)⟩
  | finalbody =>
    exact ⟨(substance_fillFinal l _ _ _).trans (substance_tidyBlock l .finalbody _),
      fun m hm => (mem_fillFinal hm).imp_left mem_tidyBlock⟩
  | _ => exact ⟨rfl, fun m hm => .inl hm⟩

/-- From the blocks of a tidied node the same is gathered as from the tidied nodes below, if nothing
comes of what is empty. -/
theorem flatMap_everywhere_tidyBlocks {α : Type} {f : Node → List α} {outer : Span} {field : Field}
    (hplaceholder : ∀ s, f (placeholder s) = [])
    (hempty : ∀ m ∈ n.rawBlock field, ∀ span, (everywhere tidyBlocks span m).isEmpty →
      f (everywhere tidyBlocks span m) = []) :
    ((everywhere tidyBlocks outer n).rawBlock field).flatMap f = (n.rawBlock field).flatMap
      fun m => f (everywhere tidyBlocks (spanWithin outer n.label n.span) m) := by
  obtain ⟨hsubstance, hmem⟩ := rawBlock_everywhere_tidyBlocks outer n field
  have hmap : ∀ m ∈ (n.rawBlock field).map
      (everywhere tidyBlocks (spanWithin outer n.label n.span)), m.isEmpty → f m = [] := by
    intro m hm
    obtain ⟨k, hk, rfl⟩ := List.mem_map.mp hm
    exact hempty k hk _
  rw [flatMap_eq_of_substance hsubstance (fun m hm hm' => ?_) hmap, List.flatMap_map]
  rcases hmem m hm with hm | ⟨s, rfl⟩
  · exact hmap m hm hm'
  · exact hplaceholder s

/-! ## Stripping -/

/-- A node without the empty statements of its blocks. Handlers and cases are no statements. -/
def stripBlocks (_ : Span) : Node → Node
  | mk l s ts b o h f c => mk l s ts (substance b) (substance o) h (substance f) c

/-- The module without empty statements, at any depth. -/
def strip (module : Node) : Node :=
  everywhere stripBlocks outermost module

private theorem isEmpty_everywhere_stripBlocks (outer : Span) (n : Node) :
    (everywhere stripBlocks outer n).isEmpty = n.isEmpty := by
  obtain ⟨hlabel, hterms⟩ := header_everywhere (f := stripBlocks)
    (fun _ n => by cases n; rfl) (fun _ n => by cases n; rfl) outer n
  exact isEmpty_congr hlabel hterms

theorem substance_map {f : Node → Node} (h : ∀ n, (f n).isEmpty = n.isEmpty) (ns : List Node) :
    substance (ns.map f) = (substance ns).map f := by
  rw [substance, List.filter_map, substance]
  congr 2
  funext n
  simp [h]

private theorem everywhere_stripBlocks_tidyBlocks (outer : Span) (n : Node) :
    everywhere stripBlocks outer (everywhere tidyBlocks outer n) =
      everywhere stripBlocks outer n := by
  induction n using children_induction generalizing outer with
  | step n ih =>
    obtain ⟨l, s, ts, b, o, h, f, c⟩ := n
    rw [everywhere_mk tidyBlocks, everywhere_mk stripBlocks outer l s ts b]
    dsimp only
    have hchildren : ∀ ns : List Node, ns ⊆ (mk l s ts b o h f c).children →
        (ns.map (everywhere tidyBlocks (spanWithin outer l s))).map
            (everywhere stripBlocks (spanWithin outer l s)) =
          ns.map (everywhere stripBlocks (spanWithin outer l s)) := by
      intro ns hns
      rw [List.map_map]
      exact List.map_congr_left fun m hm => ih m (hns hm) _
    have hblock : ∀ ns ns' : List Node, ns ⊆ (mk l s ts b o h f c).children →
        substance ns' = substance (ns.map (everywhere tidyBlocks (spanWithin outer l s))) →
        substance (ns'.map (everywhere stripBlocks (spanWithin outer l s))) =
          substance (ns.map (everywhere stripBlocks (spanWithin outer l s))) := by
      intro ns ns' hns hns'
      rw [substance_map (isEmpty_everywhere_stripBlocks _), hns',
        ← substance_map (isEmpty_everywhere_stripBlocks _), hchildren ns hns]
    have hsub := rawBlock_subset_children (mk l s ts b o h f c)
    have hbody := hblock b _ (hsub .body)
      ((substance_fillBody l (spanWithin outer l s) _).trans (substance_tidyBlock l .body _))
    have horelse := hblock o _ (hsub .orelse) (substance_tidyBlock l .orelse _)
    have hfinal := hblock f _ (hsub .finalbody)
      ((substance_fillFinal l (spanWithin outer l s)
        (h.map (everywhere tidyBlocks (spanWithin outer l s))) _).trans
        (substance_tidyBlock l .finalbody _))
    rw [tidyBlocks, fill, everywhere_mk, stripBlocks, stripBlocks, hbody, horelse, hfinal,
      hchildren h (hsub .handlers), hchildren c (hsub .cases)]

/-- Normal form touches nothing but empty statements. -/
theorem strip_tidy (module : Node) : module.tidy.strip = module.strip :=
  everywhere_stripBlocks_tidyBlocks outermost module

end Node

end GeneticRepair.Code
