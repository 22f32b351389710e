import GeneticRepair.Proofs.Code.Normal

/-!
# Shape

A node has no other blocks than its label has. In a shaped tree, besides, no node is loose, as only
a term is that has lost its way, and in a regular one an empty statement consists of constants that
stand alone, so that nothing is lost with it. What is made by filling or tidying such a tree is again
one.
-/

namespace GeneticRepair.Code.Node

/-- Whatever is no block of its label is empty. -/
def Framed (n : Node) : Prop :=
  ∀ field, field ∉ n.label.fields → n.rawBlock field = []

/-- Every node of the tree is framed. -/
def Built (n : Node) : Prop :=
  ∀ m, Within m n → m.Framed

/-- The node is not loose, and whatever is no block of its label is empty. -/
structure Plain (n : Node) : Prop where
  label_ne : n.label ≠ .loose
  rawBlock_eq_nil : ∀ field, field ∉ n.label.fields → n.rawBlock field = []

/-- Every node of the tree is plain. -/
def Shaped (n : Node) : Prop :=
  ∀ m, Within m n → m.Plain

variable {l : Label} {span : Span} {ts : List Term} {b o h f c : List Node} {m n : Node}

theorem shaped_iff : n.Shaped ↔ n.Plain ∧ ∀ child ∈ n.children, child.Shaped :=
  forall_within

theorem Shaped.of_mem (hn : n.Shaped) (hm : m ∈ n.children) : m.Shaped :=
  (shaped_iff.mp hn).2 m hm

theorem Shaped.within (hn : n.Shaped) (hm : Within m n) : m.Shaped :=
  fun k hk => hn k (hk.trans hm)

theorem built_iff : n.Built ↔ n.Framed ∧ ∀ child ∈ n.children, child.Built :=
  forall_within

theorem Built.of_mem (hn : n.Built) (hm : m ∈ n.children) : m.Built :=
  (built_iff.mp hn).2 m hm

theorem Shaped.built (hn : n.Shaped) : n.Built :=
  fun m hm => (hn m hm).rawBlock_eq_nil

theorem hasBlock_iff {field : Field} : n.hasBlock field = true ↔ field ∈ n.label.fields :=
  List.contains_iff_mem

theorem Framed.hasBlock_of_mem {field : Field} (hn : n.Framed) (hm : m ∈ n.rawBlock field) :
    n.hasBlock field = true := by
  refine Decidable.byContradiction fun hno => ?_
  rw [hn field (mt hasBlock_iff.mpr hno)] at hm
  cases hm

theorem fields_of_isEmpty (h : n.isEmpty = true) : n.label.fields = [] := by
  rcases isEmpty_iff.mp h with hl | ⟨hl, -⟩ <;> rw [hl] <;> rfl

theorem framed_simple : (simple l span ts).Framed := by
  intro field _
  cases field <;> rfl

theorem built_simple : (simple l span ts).Built :=
  built_iff.mpr ⟨framed_simple, fun _ hm => nomatch hm⟩

private theorem shaped_simple (hl : l ≠ .loose) : (simple l span ts).Shaped :=
  shaped_iff.mpr ⟨⟨hl, framed_simple⟩, fun _ hm => nomatch hm⟩

theorem shaped_placeholder : (placeholder span).Shaped :=
  shaped_simple (by simp)

/-! ## Filling and tidying -/

theorem finalbody_mem_fields (h : l.isTry = true) : .finalbody ∈ l.fields := by
  cases l with
  | tryBlock => simp [Label.fields]
  | _ => cases h

theorem Framed.fill (hn : n.Framed) : (fill span n).Framed := by
  obtain ⟨l, s, ts, b, o, h, f, c⟩ := n
  intro field hfield
  have hnil := hn field hfield
  cases field with
  | body =>
    show fillBody l span b = []
    rw [fillBody, if_pos (.inr hfield)]
    exact hnil
  | finalbody =>
    show fillFinal l span h f = []
    rw [fillFinal, if_neg]
    · exact hnil
    · rintro ⟨htry, -⟩
      exact hfield (finalbody_mem_fields htry)
  | _ => exact hnil

private theorem Framed.tidyBlocks (hn : n.Framed) : (tidyBlocks span n).Framed := by
  obtain ⟨l, s, ts, b, o, h, f, c⟩ := n
  have htidied : (Node.mk l s ts (tidyBlock l .body b) (tidyBlock l .orelse o) h
      (tidyBlock l .finalbody f) c).Framed := by
    intro field hfield
    have hnil := hn field hfield
    cases field <;> simp_all [rawBlock, tidyBlock, dropEmpty]
  exact htidied.fill

private theorem Plain.fill (hn : n.Plain) : (fill span n).Plain where
  label_ne := by
    rw [label_fill]
    exact hn.label_ne
  rawBlock_eq_nil := Framed.fill hn.rawBlock_eq_nil

private theorem Plain.tidyBlocks (hn : n.Plain) : (tidyBlocks span n).Plain where
  label_ne := by
    rw [label_tidyBlocks]
    exact hn.label_ne
  rawBlock_eq_nil := Framed.tidyBlocks hn.rawBlock_eq_nil

theorem Framed.map (below : Node → Node) (hn : (mk l span ts b o h f c).Framed) :
    (mk l span ts (b.map below) (o.map below) (h.map below) (f.map below)
      (c.map below)).Framed := by
  intro field hfield
  have hnil := hn field hfield
  cases field <;> simp_all [rawBlock]

/-- What holds of all nodes of a tree, and of placeholders, holds of all nodes after a function that
keeps it has been applied everywhere, if the function adds nothing but placeholders. -/
theorem forall_everywhere {P : Node → Prop} {g : Span → Node → Node}
    (hplaceholder : ∀ span, P (placeholder span)) (hg : ∀ span n, P n → P (g span n))
    (hmap : ∀ (below : Node → Node) (l : Label) (span : Span) (ts : List Term)
      (b o h f c : List Node), P (mk l span ts b o h f c) →
        P (mk l span ts (b.map below) (o.map below) (h.map below) (f.map below) (c.map below)))
    (hchildren : ∀ span n m, m ∈ (g span n).children → m ∈ n.children ∨ ∃ s, m = placeholder s)
    (hn : ∀ m, Within m n → P m) (outer : Span) : ∀ m, Within m (everywhere g outer n) → P m := by
  intro m hm
  rcases within_everywhere hchildren hm with ⟨s, rfl⟩ | ⟨k, span, hk, rfl⟩
  · exact hplaceholder s
  · have hP := hn k hk
    obtain ⟨l, s, ts, b, o, h, f, c⟩ := k
    rw [everywhere_mk]
    exact hg _ _ (hmap _ _ _ _ _ _ _ _ _ hP)

private theorem shaped_everywhere {g : Span → Node → Node}
    (hplain : ∀ span n, n.Plain → (g span n).Plain)
    (hchildren : ∀ span n m, m ∈ (g span n).children → m ∈ n.children ∨ ∃ s, m = placeholder s)
    (hn : n.Shaped) (outer : Span) : (everywhere g outer n).Shaped :=
  forall_everywhere (fun _ => shaped_placeholder _ (.self _)) hplain
    (fun below _ _ _ _ _ _ _ _ hP => ⟨hP.label_ne, Framed.map below hP.rawBlock_eq_nil⟩) hchildren
    hn outer

private theorem shaped_filled (hn : n.Shaped) : n.filled.Shaped :=
  shaped_everywhere (fun _ _ => Plain.fill) (fun _ _ _ => mem_children_fill) hn outermost

theorem shaped_everywhere_tidyBlocks (hn : n.Shaped) (outer : Span) :
    (everywhere Node.tidyBlocks outer n).Shaped :=
  shaped_everywhere (fun _ _ => Plain.tidyBlocks) (fun _ _ _ => mem_children_tidyBlocks) hn outer

theorem shaped_tidy (hn : n.Shaped) : n.tidy.Shaped :=
  shaped_everywhere_tidyBlocks hn outermost

theorem built_tidy (hn : n.Built) : n.tidy.Built :=
  forall_everywhere (fun _ => framed_simple) (fun _ _ => Framed.tidyBlocks)
    (fun below _ _ _ _ _ _ _ _ hP => Framed.map below hP) (fun _ _ _ => mem_children_tidyBlocks) hn
    outermost

/-! ## Regular trees -/

theorem isEmpty_congr (hlabel : m.label = n.label) (hterms : m.terms = n.terms) :
    m.isEmpty = n.isEmpty := by
  rw [Bool.eq_iff_iff, isEmpty_iff, isEmpty_iff, hlabel, hterms]

theorem header_everywhere {f : Span → Node → Node}
    (hlabel : ∀ span n, (f span n).label = n.label) (hterms : ∀ span n, (f span n).terms = n.terms)
    (outer : Span) (n : Node) :
    (everywhere f outer n).label = n.label ∧ (everywhere f outer n).terms = n.terms := by
  obtain ⟨l, s, ts, b, o, h, fb, c⟩ := n
  rw [everywhere_mk]
  exact ⟨hlabel _ _, hterms _ _⟩

/-- If the node is empty, its terms are constants that stand alone. -/
def Bare (n : Node) : Prop :=
  n.isEmpty → ∀ t ∈ n.terms, ∃ c line, t = .node (.constant c) line []

/-- The tree is shaped, and its empty statements are bare. -/
structure Regular (n : Node) : Prop where
  shaped : n.Shaped
  bare : ∀ m, Within m n → m.Bare

private theorem bare_congr (hlabel : m.label = n.label) (hterms : m.terms = n.terms) :
    m.Bare ↔ n.Bare := by
  rw [Bare, Bare, isEmpty_congr hlabel hterms, hterms]

private theorem bare_of_fields (h : n.label.fields ≠ []) : n.Bare :=
  fun hempty => absurd (fields_of_isEmpty hempty) h

theorem regular_iff : n.Regular ↔ n.Plain ∧ n.Bare ∧ ∀ child ∈ n.children, child.Regular := by
  constructor
  · rintro ⟨hshaped, hbare⟩
    obtain ⟨hplain, hshaped⟩ := shaped_iff.mp hshaped
    obtain ⟨hn, hbare⟩ := forall_within.mp hbare
    exact ⟨hplain, hn, fun child hchild => ⟨hshaped child hchild, hbare child hchild⟩⟩
  · rintro ⟨hplain, hn, hchildren⟩
    exact ⟨shaped_iff.mpr ⟨hplain, fun child hchild => (hchildren child hchild).shaped⟩,
      forall_within.mpr ⟨hn, fun child hchild => (hchildren child hchild).bare⟩⟩

theorem regular_simple (hl : l ≠ .loose) (hbare : (simple l span ts).Bare) :
    (simple l span ts).Regular :=
  regular_iff.mpr ⟨(shaped_iff.mp (shaped_simple hl)).1, hbare, fun _ hm => nomatch hm⟩

theorem regular_placeholder (span : Span) : (placeholder span).Regular :=
  regular_simple (by simp) fun _ _ ht => nomatch ht

theorem Regular.of_mem (hn : n.Regular) (hm : m ∈ n.children) : m.Regular :=
  (regular_iff.mp hn).2.2 m hm

theorem regular_mk (hl : l.fields ≠ []) (hplain : ∀ field, field ∉ l.fields →
    (mk l span ts b o h f c).rawBlock field = []) (hb : ∀ m ∈ b, m.Regular)
    (ho : ∀ m ∈ o, m.Regular) (hh : ∀ m ∈ h, m.Regular) (hf : ∀ m ∈ f, m.Regular)
    (hc : ∀ m ∈ c, m.Regular) : (mk l span ts b o h f c).Regular := by
  refine regular_iff.mpr ⟨⟨?_, hplain⟩, bare_of_fields hl, fun m hm => ?_⟩
  · rintro rfl
    exact hl rfl
  · simp only [children, List.mem_append] at hm
    rcases hm with (((hm | hm) | hm) | hm) | hm
    · exact hb m hm
    · exact ho m hm
    · exact hh m hm
    · exact hf m hm
    · exact hc m hm

theorem regular_withBody (hl : l.fields = [.body]) (hb : ∀ m ∈ b, m.Regular) :
    (mk l span ts b [] [] [] []).Regular := by
  refine regular_mk (by simp [hl]) ?_ hb (by simp) (by simp) (by simp) (by simp)
  intro field hfield
  rw [hl] at hfield
  cases field <;> simp_all [rawBlock]

theorem regular_withOrelse (hl : l.fields = [.body, .orelse]) (hb : ∀ m ∈ b, m.Regular)
    (ho : ∀ m ∈ o, m.Regular) : (mk l span ts b o [] [] []).Regular := by
  refine regular_mk (by simp [hl]) ?_ hb ho (by simp) (by simp) (by simp)
  intro field hfield
  rw [hl] at hfield
  cases field <;> simp_all [rawBlock]

private theorem bare_everywhere {g : Span → Node → Node}
    (hlabel : ∀ span n, (g span n).label = n.label)
    (hterms : ∀ span n, (g span n).terms = n.terms)
    (hchildren : ∀ span n m, m ∈ (g span n).children → m ∈ n.children ∨ ∃ s, m = placeholder s)
    (hn : ∀ m, Within m n → m.Bare) (outer : Span) :
    ∀ m, Within m (everywhere g outer n) → m.Bare := by
  refine forall_everywhere (fun _ _ _ ht => nomatch ht)
    (fun span n => (bare_congr (hlabel span n) (hterms span n)).mpr) ?_ hchildren hn outer
  intro below l span ts b o h f c hbare
  refine (bare_congr ?_ ?_).mpr hbare
  · rfl
  · rfl

theorem regular_filled (hn : n.Regular) : n.filled.Regular :=
  ⟨shaped_filled hn.shaped,
    bare_everywhere label_fill terms_fill (fun _ _ _ => mem_children_fill) hn.bare outermost⟩

theorem regular_everywhere_tidyBlocks (hn : n.Regular) (outer : Span) :
    (everywhere tidyBlocks outer n).Regular :=
  ⟨shaped_everywhere_tidyBlocks hn.shaped outer,
    bare_everywhere label_tidyBlocks terms_tidyBlocks (fun _ _ _ => mem_children_tidyBlocks) hn.bare
      outer⟩

theorem regular_tidy (hn : n.Regular) : n.tidy.Regular :=
  regular_everywhere_tidyBlocks hn outermost

end GeneticRepair.Code.Node
