import GeneticRepair.Proofs.Code.LocalTidy
import GeneticRepair.Proofs.Code.Transformation

/-!
# Undoing edits

An edit of a module in normal form is undone by an edit at the same paths: an insertion by a deletion,
a swap by another swap. Only a swap can leave something to tidy, when a text becomes all that a
function holds and so its docstring. The placeholder behind it goes when the text does.
-/

namespace GeneticRepair.Code

variable {l : Label} {field : Field} {ns : List Node} {i : Nat} {span : Span}

private theorem docstrings_le_one (l : Label) (field : Field) (ns : List Node) :
    docstrings l field ns ≤ 1 := by
  cases ns with
  | nil => exact Nat.zero_le 1
  | cons m ns =>
    rw [docstrings_cons]
    split <;> omega

private theorem soleEmpty_of_forall (h : ∀ m ∈ ns, m.isEmpty = false) : SoleEmpty l field ns := by
  intro m hm hempty
  rw [h m hm] at hempty
  cases hempty

private theorem SoleEmpty.forall_isEmpty {m : Node} (h : SoleEmpty l field ns)
    (hm : ns[i]? = some m)
    (hempty : m.isEmpty = false) (hdoc : docstrings l field ns ≤ i) :
    ∀ k ∈ ns, k.isEmpty = false := by
  intro k hk
  by_contra hk'
  obtain ⟨j, hj⟩ := List.mem_iff_getElem?.mp hk
  have hlt := (List.getElem?_eq_some_iff.mp hm).1
  obtain ⟨hdoc', hlength⟩ := soleEmpty_iff.mp h j k hj (by simpa using hk')
  obtain rfl : i = j := by omega
  obtain rfl : m = k := Option.some.inj (hm.symm.trans hj)
  exact hk' hempty

/-! ## Functions whose only statement is a text -/

variable {m k : Node}

private theorem fillBody_tidyBlock_of_isText (hl : l.isFunction = true)
    (hcode : docstrings l .body [k] = 1) (span : Span) :
    fillBody l span (tidyBlock l .body [k]) = [k, .placeholder k.span] := by
  have hfill : ¬ (l = .module ∨ .body ∉ l.fields) := by
    cases l <;> simp [Label.isFunction, Label.fields] at hl ⊢
  have htidy : tidyBlock l .body [k] = [k] := by
    simp [tidyBlock, hcode, dropEmpty]
  rw [htidy, fillBody, if_neg hfill]
  simp [hl, hcode]

private theorem fillBody_tidyBlock_of_placeholder (hempty : m.isEmpty = false)
    (hcode : docstrings l .body [m] = 0) (span s : Span) :
    fillBody l span (tidyBlock l .body [m, .placeholder s]) = [m] := by
  have hdoc : docstrings l .body [m, .placeholder s] = 0 := hcode
  have htidy : tidyBlock l .body [m, .placeholder s] = [m] := by
    simp [tidyBlock, hdoc, dropEmpty, hempty]
  rw [htidy, fillBody_eq_self (by simp) (by simp [hcode])]

namespace Node

variable {n m k w v r : Node} {p q : Place} {target donor : Statement} {g : Field} {j : Nat}
  {new : List Node}

/-! ## Edits that leave nothing to tidy -/

private theorem wellFormed_put (hn : ∀ m, Within m n → m.WellFormed) (h : n.at? p = some w)
    (hk : k.header = w.header) (hwell : ∀ m, Within m k → m.WellFormed) :
    ∀ m, Within m (n.put p k) → m.WellFormed := by
  obtain ⟨inner, heq⟩ := exists_everywhere_put hn h hk outermost
  rw [everywhere_tidyBlocks_eq_self k hwell] at heq
  rw [← heq]
  exact wellFormed_everywhere_tidyBlocks _ _

private theorem wellFormed_splice (hn : ∀ m, Within m n → m.WellFormed) (hat : n.at? p = some w)
    (hblock : w.hasBlock field = true) (hm : (w.rawBlock field)[i]? = some m)
    (hempty : m.isEmpty = false) (hdoc : docstrings w.label field (w.rawBlock field) ≤ i)
    (hne : new ≠ [])
    (hnew : ∀ k ∈ new, k.isEmpty = false ∧ ∀ m, Within m k → m.WellFormed)
    (hcode : (w.splice [(field, i)] new).HasCode) :
    ∀ m, Within m (n.splice (p ++ [(field, i)]) new) → m.WellFormed := by
  have hw : ∀ m, Within m w → m.WellFormed := fun m hm => hn m (hm.trans (within_of_at? hat))
  obtain ⟨hroot, hbelow⟩ := forall_within.mp hw
  have hmem : ∀ k ∈ (w.rawBlock field).take i ++ new ++ (w.rawBlock field).drop (i + 1),
      k ∈ new ∨ k ∈ w.rawBlock field := by
    intro k hk
    simp only [List.mem_append] at hk
    rcases hk with (hk | hk) | hk
    · exact .inr (List.mem_of_mem_take hk)
    · exact .inl hk
    · exact .inr (List.mem_of_mem_drop hk)
  rw [splice_step] at hcode
  rw [splice_append hat, splice_step]
  refine wellFormed_put hn hat (header_setBlock w field _) (forall_within.mpr ⟨?_, ?_⟩)
  · refine hroot.setBlock hblock (by simp [hne]) (fun hfield => soleEmpty_of_forall fun k hk => ?_)
      hcode
    rcases hmem k hk with hk | hk
    · exact (hnew k hk).1
    · exact (hroot.soleEmpty field hfield).forall_isEmpty hm hempty hdoc k hk
  · intro child hchild
    obtain ⟨other, hchild⟩ := mem_children.mp hchild
    by_cases hother : other = field
    · subst hother
      rw [rawBlock_setBlock_self _ hblock] at hchild
      rcases hmem child hchild with hchild | hchild
      · exact (hnew child hchild).2
      · exact hbelow child (w.rawBlock_subset_children other hchild)
    · rw [rawBlock_setBlock_of_ne _ _ hother] at hchild
      exact hbelow child (w.rawBlock_subset_children other hchild)

private theorem hasCode_splice_of_two_le (hw : w.HasCode) (hblock : w.hasBlock field = true)
    (hnew : 2 ≤ new.length) : (w.splice [(field, i)] new).HasCode := by
  rw [splice_step]
  by_cases hbody : field = .body
  · subst hbody
    rw [hasCode_setBlock_body hblock]
    intro _
    have hle := docstrings_le_one w.label .body
      ((w.rawBlock .body).take i ++ new ++ (w.rawBlock .body).drop (i + 1))
    simp only [List.length_append]
    omega
  · rwa [hasCode_setBlock_of_ne hbody]

private theorem body_of_not_hasCode (hw : w.HasCode) (hblock : w.hasBlock field = true)
    (hm : (w.rawBlock field)[i]? = some m) (h : ¬ (w.splice [(field, i)] [k]).HasCode) :
    field = .body ∧ i = 0 ∧ w.label.isFunction = true ∧ w.rawBlock .body = [m] ∧
      docstrings w.label .body [k] = 1 := by
  have hbody : field = .body := by
    by_contra hne
    rw [splice_step, hasCode_setBlock_of_ne hne] at h
    exact h hw
  subst hbody
  rw [splice_step, hasCode_setBlock_body hblock] at h
  simp only [Classical.not_imp, Nat.not_lt] at h
  obtain ⟨hfunction, hle⟩ := h
  have hone := docstrings_le_one w.label .body
    ((w.rawBlock .body).take i ++ [k] ++ (w.rawBlock .body).drop (i + 1))
  have hlt := (List.getElem?_eq_some_iff.mp hm).1
  have hlength : (w.rawBlock .body).length = 1 := by
    simp only [List.length_append, List.length_take, List.length_drop,
      List.length_singleton] at hle
    omega
  obtain ⟨m', hself⟩ := List.length_eq_one_iff.mp hlength
  obtain rfl : i = 0 := by omega
  rw [hself] at hm hle hone ⊢
  obtain rfl := Option.some.inj hm
  exact ⟨rfl, rfl, hfunction, rfl, Nat.le_antisymm hone hle⟩

/-! ## Insertion -/

private theorem at?_splice_cons (h : n.at? (p ++ [(field, i)]) = some m) (k : Node)
    (new : List Node) :
    (n.splice (p ++ [(field, i)]) (k :: new)).at? (p ++ [(field, i)]) = some k := by
  obtain ⟨w, hw, hblock, hm⟩ := at?_concat.mp h
  have hlength : ((w.rawBlock field).take i).length = i :=
    List.length_take_of_le (Nat.le_of_lt (List.getElem?_eq_some_iff.mp hm).1)
  refine at?_concat.mpr ⟨_, splice_append hw field i _ ▸ at?_put hw _, ?_, ?_⟩
  · rw [splice_step, hasBlock_setBlock, hblock]
  · rw [splice_step, rawBlock_setBlock_self _ hblock, List.append_assoc,
      List.getElem?_append_right (Nat.le_of_eq hlength), hlength, Nat.sub_self]
    rfl

private theorem splice_splice_cons (h : n.at? (p ++ [(field, i)]) = some m) (k : Node)
    (new new' : List Node) :
    (n.splice (p ++ [(field, i)]) (k :: new)).splice (p ++ [(field, i)]) new' =
      n.splice (p ++ [(field, i)]) (new' ++ new) := by
  obtain ⟨w, hw, hblock, hm⟩ := at?_concat.mp h
  have hlength : ((w.rawBlock field).take i).length = i :=
    List.length_take_of_le (Nat.le_of_lt (List.getElem?_eq_some_iff.mp hm).1)
  have hcut : ∀ before after : List Node, before.length = i →
      (before ++ k :: after).take i = before ∧ (before ++ k :: after).drop (i + 1) = after := by
    rintro before after rfl
    simp
  obtain ⟨htake, hdrop⟩ := hcut _ (new ++ (w.rawBlock field).drop (i + 1)) hlength
  rw [splice_append hw, splice_append (at?_put hw _), put_put hw, splice_append hw]
  simp only [splice_step, rawBlock_setBlock_self _ hblock, setBlock_setBlock, List.append_assoc,
    List.cons_append, htake, hdrop]

/-- An insertion leaves nothing to tidy, so that it is undone by a deletion of what was inserted. -/
theorem delete_insert (hn : n.Shaped) (hproper : n.Proper) (hs : n.Lists target p field i w m)
    (hdoc : target.docstring = false) (hempty : target.empty = false) (hq : q ≠ [])
    (hpath : donor.path = q.path) (hk : n.at? q = some k) (hkempty : k.isEmpty = false) :
    ∃ r, n.insert target donor = .ok r ∧ ∀ s : Statement, s.path = target.path →
      r.delete s = .ok n := by
  have hm := hs.at_append_eq
  have hp : p ++ [(field, i)] ≠ [] := by simp
  have hshaped : (n.splice (p ++ [(field, i)]) [k, m]).Shaped :=
    shaped_splice hn hm (by simp [hn.within (within_of_at? hm), hn.within (within_of_at? hk)])
  have hwell : ∀ j, Within j (n.splice (p ++ [(field, i)]) [k, m]) → j.WellFormed := by
    refine wellFormed_splice hproper.wellFormed hs.at_eq hs.hasBlock hs.getElem_eq
      (hs.empty_eq ▸ hempty) (not_docstring hs hdoc) (List.cons_ne_nil _ _) ?_ ?_
    · have hbelow : ∀ {q : Place} {j : Node}, n.at? q = some j →
          ∀ i, Within i j → i.WellFormed := fun hj i hi =>
        hproper.wellFormed i (hi.trans (within_of_at? hj))
      simp only [List.mem_cons, List.not_mem_nil, or_false]
      rintro j (rfl | rfl)
      · exact ⟨hkempty, hbelow hk⟩
      · exact ⟨hs.empty_eq ▸ hempty, hbelow hm⟩
    · exact hasCode_splice_of_two_le (hproper.wellFormed w (within_of_at? hs.at_eq)).code hs.hasBlock
        (by simp)
  refine ⟨_, insert_eq hn hp hs.path_eq hm hq hpath hk, fun s hpath' => ?_⟩
  rw [tidy_eq_self _ hwell, delete_eq hshaped hp (hpath'.trans hs.path_eq)
    (at?_splice_cons hm k [m]), splice_splice_cons hm, List.nil_append, splice_singleton hp hm,
    put_self hm, hproper.tidy_eq]

/-! ## Swaps -/

/-- The two nodes of a swap are at each other's places, and another swap gives back the module. -/
structure SwapsBack (n : Node) (p q : Place) (m k r : Node) : Prop where
  found : r.at? p = some k
  found' : r.at? q = some m
  restored : ((r.put p m).put q k).tidy = n

private theorem exists_tidy_put_body (hn : ∀ m, Within m n → m.WellFormed) (h : n.at? p = some w)
    (ns : List Node) (hns : ∀ m ∈ ns, ∀ m', Within m' m → m'.WellFormed) :
    ∃ span, (n.put p (w.setBlock .body ns)).tidy =
      n.put p (w.setBlock .body (fillBody w.label span (tidyBlock w.label .body ns))) := by
  have hw : ∀ m, Within m w → m.WellFormed := fun m hm => hn m (hm.trans (within_of_at? h))
  obtain ⟨inner, heq⟩ := exists_everywhere_put hn h (header_setBlock w .body ns) outermost
  obtain ⟨span, heq'⟩ := everywhere_tidyBlocks_setBlock hw inner .body ns
  have hfixed : ns.map (everywhere tidyBlocks span) = ns := by
    rw [List.map_congr_left fun m hm => everywhere_tidyBlocks_eq_self m (hns m hm) span,
      List.map_id']
  refine ⟨span, heq.trans ?_⟩
  rw [heq', hfixed, (hw w (.self w)).tidyBlocks_setBlock_body]

private theorem apart_of_singleton (h : n.at? p = some w) (hfunction : w.label.isFunction = true)
    (hbody : w.rawBlock .body = [m]) (hq : n.at? q = some k) (hpq : ¬ p ++ [(.body, 0)] <+: q)
    (hqp : ¬ q <+: p ++ [(.body, 0)]) : ¬ p <+: q ∧ ¬ q <+: p := by
  refine ⟨?_, fun hbelow => hqp (hbelow.trans (List.prefix_append _ _))⟩
  rintro ⟨rest, rfl⟩
  rw [at?_append, h, Option.bind_some] at hq
  cases rest with
  | nil => exact hqp (by simp)
  | cons step rest =>
    obtain ⟨hblock, child, hchild, -⟩ := at?_cons.mp hq
    obtain ⟨field, i⟩ := step
    have hfields : w.label.fields = [.body] := by
      cases hl : w.label <;> simp_all [Label.isFunction, Label.fields]
    obtain rfl : field = .body := by
      simpa [hasBlock, hfields] using hblock
    obtain rfl : i = 0 := by
      have hlt := (List.getElem?_eq_some_iff.mp hchild).1
      rw [hbody, List.length_singleton] at hlt
      omega
    exact hpq ⟨rest, by simp⟩

/-- A swap that leaves nothing to tidy. -/
theorem swapsBack_of_wellFormed (hproper : n.Proper) (hm : n.at? p = some m) (hk : n.at? q = some k)
    (hpq : ¬ p <+: q) (hqp : ¬ q <+: p)
    (hwell : ∀ i, Within i ((n.put q m).put p k) → i.WellFormed) :
    SwapsBack n p q m k ((n.put q m).put p k).tidy := by
  have hm' : (n.put q m).at? p = some m := by
    rw [at?_put_of_apart hk hqp hpq, hm]
  rw [tidy_eq_self _ hwell]
  refine ⟨at?_put hm' k, ?_, ?_⟩
  · rw [at?_put_of_apart hm' hpq hqp, at?_put hk]
  · rw [put_put hm', put_self hm', put_put hk, put_self hk, hproper.tidy_eq]

private theorem put_setBlock_cons (hblock : w.hasBlock .body = true) (ns : List Node) (m k : Node) :
    (w.setBlock .body (m :: ns)).put [(.body, 0)] k = w.setBlock .body (k :: ns) := by
  have hhead : ((w.setBlock .body (m :: ns)).rawBlock .body)[0]? = some m := by
    rw [rawBlock_setBlock_self _ hblock]
    rfl
  rw [put_cons hhead, rawBlock_setBlock_self _ hblock, setBlock_setBlock, put, List.set_cons_zero]

/-- A swap that makes a text the docstring of a function that holds nothing else: the function gets a
placeholder, which the swap back removes. -/
theorem swapsBack_of_isText (hproper : n.Proper) (hm : n.at? (p ++ [(.body, 0)]) = some m)
    (hempty : m.isEmpty = false) (hk : n.at? q = some k) (hpq : ¬ p ++ [(.body, 0)] <+: q)
    (hqp : ¬ q <+: p ++ [(.body, 0)]) (hfirst : ∀ i, Within i (n.put q m) → i.WellFormed)
    (hw : (n.put q m).at? p = some w) (hblock : w.hasBlock .body = true)
    (hfunction : w.label.isFunction = true) (hbody : w.rawBlock .body = [m])
    (hnone : docstrings w.label .body [m] = 0) (hone : docstrings w.label .body [k] = 1) :
    SwapsBack n (p ++ [(.body, 0)]) q m k ((n.put q m).put (p ++ [(.body, 0)]) k).tidy := by
  have hwell : ∀ {q : Place} {j : Node}, n.at? q = some j → ∀ i, Within i j → i.WellFormed :=
    fun hj i hi => hproper.wellFormed i (hi.trans (within_of_at? hj))
  obtain ⟨hpq', hqp'⟩ := apart_of_singleton hw hfunction hbody (at?_put hk m) hpq hqp
  have hself : w.setBlock .body [m] = w := by
    rw [← hbody, setBlock_rawBlock]
  obtain ⟨span, htidy⟩ := exists_tidy_put_body hfirst hw [k] (by simpa using hwell hk)
  rw [fillBody_tidyBlock_of_isText hfunction hone] at htidy
  have hmade : (n.put q m).put (p ++ [(.body, 0)]) k =
      (n.put q m).put p (w.setBlock .body [k]) := by
    conv_lhs => rw [put_append hw, ← hself, put_setBlock_cons hblock]
  rw [hmade, htidy]
  refine ⟨?_, ?_, ?_⟩
  · refine at?_concat.mpr ⟨_, at?_put hw _, by rw [hasBlock_setBlock, hblock], ?_⟩
    rw [rawBlock_setBlock_self _ hblock]
    rfl
  · rw [at?_put_of_apart hw hpq' hqp', at?_put hk]
  · have hw' : n.at? p = some w := by
      rw [← at?_put_of_apart hk hqp' hpq' m, hw]
    obtain ⟨span', htidy'⟩ := exists_tidy_put_body hproper.wellFormed hw'
      [m, .placeholder k.span] (by
        simp only [List.mem_cons, List.not_mem_nil, or_false]
        rintro i (rfl | rfl)
        · exact hwell hm
        · exact fun i hi => within_placeholder hi ▸ wellFormed_placeholder _)
    rw [fillBody_tidyBlock_of_placeholder hempty hnone, hself, put_self hw'] at htidy'
    rw [put_append (at?_put hw _), put_put hw, put_setBlock_cons hblock,
      put_comm hw (at?_put hk m) hpq' hqp', put_put hk, put_self hk, htidy']

/-- If the target fits in at the place of the donor, the module needs no tidying there; at the place of
the target it gets a placeholder if the donor becomes a docstring. -/
theorem swapsBack_of_hasCode (hproper : n.Proper) (hs : n.Lists target p field i w m)
    (hdoc : target.docstring = false) (hempty : m.isEmpty = false)
    (hs' : n.Lists donor q g j v k) (hdoc' : donor.docstring = false) (hempty' : k.isEmpty = false)
    (hpq : ¬ p ++ [(field, i)] <+: q ++ [(g, j)]) (hqp : ¬ q ++ [(g, j)] <+: p ++ [(field, i)])
    (hfit : (v.splice [(g, j)] [m]).HasCode) :
    SwapsBack n (p ++ [(field, i)]) (q ++ [(g, j)]) m k
      ((n.put (q ++ [(g, j)]) m).put (p ++ [(field, i)]) k).tidy := by
  have hm := hs.at_append_eq
  have hk := hs'.at_append_eq
  have hwell : ∀ {q : Place} {j : Node}, n.at? q = some j → ∀ i, Within i j → i.WellFormed :=
    fun hj i hi => hproper.wellFormed i (hi.trans (within_of_at? hj))
  have hput : n.splice (q ++ [(g, j)]) [m] = n.put (q ++ [(g, j)]) m :=
    splice_singleton (by simp) hk m
  have hfirst : ∀ i, Within i (n.put (q ++ [(g, j)]) m) → i.WellFormed := by
    rw [← hput]
    exact wellFormed_splice hproper.wellFormed hs'.at_eq hs'.hasBlock hs'.getElem_eq hempty'
      (not_docstring hs' hdoc') (by simp) (by simpa using ⟨hempty, hwell hm⟩) hfit
  obtain ⟨u, hu, hblock, hget, hdocu⟩ := hs.exists_splice hdoc hk hqp hpq m
  rw [hput] at hu
  by_cases hcode : (u.splice [(field, i)] [k]).HasCode
  · refine swapsBack_of_wellFormed hproper hm hk hpq hqp ?_
    have hm' : (n.put (q ++ [(g, j)]) m).at? (p ++ [(field, i)]) = some m := by
      rw [at?_put_of_apart hk hqp hpq, hm]
    rw [← splice_singleton (by simp) hm']
    exact wellFormed_splice hfirst hu hblock hget hempty hdocu (by simp)
      (by simpa using ⟨hempty', hwell hk⟩) hcode
  · obtain ⟨rfl, rfl, hfunction, hbody, hone⟩ :=
      body_of_not_hasCode (hfirst u (within_of_at? hu)).code hblock hget hcode
    exact swapsBack_of_isText hproper hm hempty hk hpq hqp hfirst hu hblock hfunction hbody
      (Nat.le_zero.mp (hbody ▸ hdocu)) hone

private theorem SwapsBack.symm (h : SwapsBack n p q m k r) (hpq : ¬ p <+: q) (hqp : ¬ q <+: p) :
    SwapsBack n q p k m r :=
  ⟨h.found', h.found, by rw [put_comm h.found' h.found hqp hpq, h.restored]⟩

private theorem hasCode_or_hasCode (hproper : n.Proper) (hs : n.Lists target p field i w m)
    (hs' : n.Lists donor q g j v k) (hdoc' : donor.docstring = false) :
    (v.splice [(g, j)] [m]).HasCode ∨ (w.splice [(field, i)] [k]).HasCode := by
  have hcode : ∀ {p : Place} {w : Node}, n.at? p = some w → w.HasCode := fun h =>
    (hproper.wellFormed _ (within_of_at? h)).code
  by_contra hneither
  rw [not_or] at hneither
  obtain ⟨rfl, rfl, hfunction, hbody, -⟩ :=
    body_of_not_hasCode (hcode hs'.at_eq) hs'.hasBlock hs'.getElem_eq hneither.1
  obtain ⟨-, -, -, -, htext⟩ :=
    body_of_not_hasCode (hcode hs.at_eq) hs.hasBlock hs.getElem_eq hneither.2
  have hnone := not_docstring hs' hdoc'
  have hdocumentable : v.label.isDocumentable = true := by
    cases hl : v.label <;> simp_all [Label.isFunction, Label.isDocumentable]
  rw [docstrings_cons] at htext
  rw [hbody, docstrings_cons] at hnone
  simp_all

private theorem swap_eq_put (hn : n.Shaped) (hp : p ≠ []) (hpath : target.path = Place.path p)
    (hm : n.at? p = some m) (hq : q ≠ []) (hpath' : donor.path = Place.path q)
    (hk : n.at? q = some k) (hpq : ¬ p <+: q) (hqp : ¬ q <+: p) :
    n.swap target donor = .ok ((n.put p k).put q m).tidy := by
  have hk' := (at?_put_of_apart hm hpq hqp k).trans hk
  rw [swap_eq hn hp hpath hm hq hpath' hk hpq hqp, splice_singleton hp hm, splice_singleton hq hk']

private theorem swap_swap (hn : n.Shaped) (hproper : n.Proper) (hs : n.Lists target p field i w m)
    (hdoc : target.docstring = false) (hempty : m.isEmpty = false)
    (hs' : n.Lists donor q g j v k) (hdoc' : donor.docstring = false) (hempty' : k.isEmpty = false)
    (hpq : ¬ p ++ [(field, i)] <+: q ++ [(g, j)]) (hqp : ¬ q ++ [(g, j)] <+: p ++ [(field, i)]) :
    ∃ r, n.swap target donor = .ok r ∧ ∀ s s' : Statement, s.path = target.path →
      s'.path = donor.path → r.swap s s' = .ok n := by
  have hm := hs.at_append_eq
  have hk := hs'.at_append_eq
  have hback : SwapsBack n (p ++ [(field, i)]) (q ++ [(g, j)]) m k
      ((n.put (p ++ [(field, i)]) k).put (q ++ [(g, j)]) m).tidy := by
    rcases hasCode_or_hasCode hproper hs hs' hdoc' with hfit | hfit
    · rw [put_comm hm hk hpq hqp]
      exact swapsBack_of_hasCode hproper hs hdoc hempty hs' hdoc' hempty' hpq hqp hfit
    · exact (swapsBack_of_hasCode hproper hs' hdoc' hempty' hs hdoc hempty hqp hpq hfit).symm hqp hpq
  have hshaped : ((n.put (p ++ [(field, i)]) k).put (q ++ [(g, j)]) m).tidy.Shaped := by
    have hfirst := shaped_put hn hm (hn.within (within_of_at? hk))
    have hk' := (at?_put_of_apart hm hpq hqp k).trans hk
    exact shaped_tidy (shaped_put hfirst hk' (hn.within (within_of_at? hm)))
  refine ⟨_, swap_eq_put hn (by simp) hs.path_eq hm (by simp) hs'.path_eq hk hpq hqp,
    fun s s' hpath hpath' => ?_⟩
  rw [swap_eq_put hshaped (by simp) (hpath.trans hs.path_eq) hback.found (by simp)
    (hpath'.trans hs'.path_eq) hback.found' hpq hqp, hback.restored]

/-- In a module in normal form, let the target of an edit be mutatable and not empty, and the donor in
its pool. What has been inserted before the target is deleted at the path of the target, and what has
been swapped with it is swapped back at the same two paths: both give exactly the module. -/
theorem edits_undone (hn : n.Shaped) (hproper : n.Proper) (ht : target ∈ n.statements)
    (hmutatable : target.mutatable = true) (hempty : target.empty = false) {crossScope : Bool}
    (hd : donor ∈ n.donors crossScope target) :
    (∃ r, n.insert target donor = .ok r ∧ ∀ s : Statement, s.path = target.path →
      r.delete s = .ok n) ∧
    ∃ r, n.swap target donor = .ok r ∧ ∀ s s' : Statement, s.path = target.path →
      s'.path = donor.path → r.swap s s' = .ok n := by
  obtain ⟨p, field, i, w, m, hs⟩ := exists_lists hn ht
  obtain ⟨q, g, j, v, k, hs', hmutatable', hpq, hqp⟩ := exists_lists_donor hn hs hmutatable hd
  have hdonatable := (List.mem_filter.mp hd).2
  simp only [Statement.donatable, Bool.and_eq_true, Bool.not_eq_true'] at hdonatable
  have hempty' : k.isEmpty = false := hs'.empty_eq ▸ hdonatable.1.1.2
  have hdoc := docstring_of_mutatable hmutatable
  exact ⟨delete_insert hn hproper hs hdoc hempty (by simp) hs'.path_eq hs'.at_append_eq hempty',
    swap_swap hn hproper hs hdoc (hs.empty_eq ▸ hempty) hs' (docstring_of_mutatable hmutatable')
      hempty' hpq hqp⟩

/-- The target is all that a function holds, and the donor is a text, which becomes its docstring. -/
theorem edits_undone_of_docstring :
    ∃ (n : Node) (target donor : Statement) (r : Node), n.Shaped ∧ n.Proper ∧
      target ∈ n.statements ∧ target.mutatable = true ∧ target.empty = false ∧
      donor ∈ n.donors true target ∧ n.swap target donor = .ok r ∧
      r.swap target donor = .ok n ∧
      ∃ r, n.insert target donor = .ok r ∧ r.delete target = .ok n := by
  have hlines : (parseLines ["def f():", "    x = 1", "y = 2", "'text'"]).toOption.any
      (fun module => module.tidy.statements.any fun target => target.mutatable && !target.empty &&
        target.span.line == 2 && (module.tidy.donors true target).any (·.span.line == 4)) = true := by
    decide +kernel
  cases hparse : parseLines ["def f():", "    x = 1", "y = 2", "'text'"] with
  | error _ =>
    rw [hparse] at hlines
    cases hlines
  | ok module =>
    rw [hparse] at hlines
    obtain ⟨target, ht, htarget⟩ := List.any_eq_true.mp hlines
    simp only [Bool.and_eq_true, Bool.not_eq_true'] at htarget
    obtain ⟨⟨⟨hmutatable, hempty⟩, -⟩, hpool⟩ := htarget
    obtain ⟨donor, hd, -⟩ := List.any_eq_true.mp hpool
    have hn := shaped_tidy (shaped_parseLines hparse)
    have hproper := proper_tidy module
    obtain ⟨⟨r, hinserted, hdelete⟩, r', hswapped, hback⟩ :=
      edits_undone hn hproper ht hmutatable hempty hd
    exact ⟨module.tidy, target, donor, r', hn, hproper, ht, hmutatable, hempty, hd, hswapped,
      hback target donor rfl rfl, r, hinserted, hdelete target rfl⟩

end Node

end GeneticRepair.Code
