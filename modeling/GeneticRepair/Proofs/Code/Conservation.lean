import GeneticRepair.Proofs.Code.Docstrings
import GeneticRepair.Proofs.Code.NodeReader

/-!
# What edits conserve

Up to empty statements an edit comes to a change of the lists that hold the edited statements:
nothing else is lost or invented. All docstrings outside these statements stay docstrings.
-/

namespace GeneticRepair.Code.Node

variable {n m k r holder other : Node} {new : List Node} {field : Field} {i : Nat} {p q : Place}
  {target donor : Statement}

/-- A module that has been parsed, or made of such modules by edits of their statements. -/
inductive Grown : Node → Prop
  | parsed {lines : List String} {module : Node} (h : parseLines lines = .ok module) : Grown module
  | deleted {n r : Node} {target : Statement} (hn : Grown n) (ht : target ∈ n.statements)
      (hmutatable : target.mutatable = true) (made : n.delete target = .ok r) : Grown r
  | inserted {n r : Node} {target donor : Statement} {crossScope : Bool} (hn : Grown n)
      (ht : target ∈ n.statements) (hmutatable : target.mutatable = true)
      (hd : donor ∈ n.donors crossScope target) (made : n.insert target donor = .ok r) : Grown r
  | swapped {n r : Node} {target donor : Statement} {crossScope : Bool} (hn : Grown n)
      (ht : target ∈ n.statements) (hmutatable : target.mutatable = true)
      (hd : donor ∈ n.donors crossScope target) (made : n.swap target donor = .ok r) : Grown r
  | exchanged {n other r s : Node} {mine theirs : Statement} (hn : Grown n) (hother : Grown other)
      (hmine : mine ∈ n.statements) (htheirs : theirs ∈ other.statements)
      (hmovable : mine.exchangeable = true) (hmovable' : theirs.exchangeable = true)
      (made : n.exchange other mine theirs = .ok (r, s)) : Grown r
  | received {n other r s : Node} {mine theirs : Statement} (hn : Grown n) (hother : Grown other)
      (hmine : mine ∈ n.statements) (htheirs : theirs ∈ other.statements)
      (hmovable : mine.exchangeable = true) (hmovable' : theirs.exchangeable = true)
      (made : n.exchange other mine theirs = .ok (r, s)) : Grown s

/-- Whatever docstrings a module has outside the node at a place, another module has as well, and
also those of the node that takes its place. -/
def KeepsDocs (n : Node) (p : Place) (k r : Node) : Prop :=
  ∃ m before after around, n.at? p = some m ∧ n.docs = before ++ m.docsIn around ++ after ∧
    (before ++ k.docsIn around ++ after).Sublist r.docs

/-! ## Shapes -/

theorem shaped_splice (hn : n.Shaped) (h : n.at? p = some m) (hnew : ∀ k ∈ new, k.Shaped) :
    (n.splice p new).Shaped := by
  refine shaped_updateAt (fun ns i hns k hk => ?_) hn h
  simp only [List.mem_append] at hk
  rcases hk with (hk | hk) | hk
  · exact hns k (List.mem_of_mem_take hk)
  · exact hnew k hk
  · exact hns k (List.mem_of_mem_drop hk)

theorem shaped_splice_singleton (hn : n.Shaped) (h : n.at? p = some m) (hk : k.Shaped) :
    (n.splice p [k]).Shaped :=
  shaped_splice hn h (by simpa using hk)

private theorem fields_of_mutatable (hs : n.Lists target p field i holder m)
    (h : target.mutatable = true) : m.label.fields = [] := by
  simp only [Statement.mutatable, Bool.and_eq_true, Bool.not_eq_true', hs.compound_eq] at h
  simpa using h.1

private theorem mutatable_of_mem_donors {crossScope : Bool}
    (h : donor ∈ n.donors crossScope target) :
    donor ∈ n.statements ∧ donor.mutatable = true ∧ donor.path ≠ target.path := by
  obtain ⟨hmem, hfilter⟩ := List.mem_filter.mp h
  simp only [Statement.donatable, Bool.and_eq_true, bne_iff_ne] at hfilter
  exact ⟨hmem, hfilter.1.1.1, hfilter.1.2⟩

private theorem not_prefix_of_ne {field' : Field} {j : Nat} {holder' : Node}
    (hs : n.Lists target p field i holder m) (hs' : n.Lists donor q field' j holder' k)
    (hm : m.label.fields = []) (hne : donor.path ≠ target.path) :
    ¬ p ++ [(field, i)] <+: q ++ [(field', j)] := by
  intro hbelow
  have heq := eq_of_prefix hs.at_append_eq hm hs'.at_append_eq hbelow
  exact hne (by rw [hs.path_eq, hs'.path_eq, heq])

theorem not_docstring (hs : n.Lists target p field i holder m) (h : target.docstring = false) :
    docstrings holder.label field (holder.rawBlock field) ≤ i := by
  by_contra hlt
  rw [hs.docstring_iff.mpr (Nat.lt_of_not_le hlt)] at h
  cases h

theorem docstring_of_mutatable (h : target.mutatable = true) : target.docstring = false := by
  simp only [Statement.mutatable, Bool.and_eq_true, Bool.not_eq_true'] at h
  exact h.2

/-- Neither of a mutatable target and a donor in its pool lies below the other. -/
theorem exists_lists_donor {crossScope : Bool} (hn : n.Shaped)
    (hs : n.Lists target p field i holder m) (hmutatable : target.mutatable = true)
    (hd : donor ∈ n.donors crossScope target) :
    ∃ q field' j holder' k, n.Lists donor q field' j holder' k ∧ donor.mutatable = true ∧
      ¬ p ++ [(field, i)] <+: q ++ [(field', j)] ∧ ¬ q ++ [(field', j)] <+: p ++ [(field, i)] := by
  obtain ⟨hmem, hmutatable', hne⟩ := mutatable_of_mem_donors hd
  obtain ⟨q, field', j, holder', k, hs'⟩ := exists_lists hn hmem
  exact ⟨q, field', j, holder', k, hs', hmutatable',
    not_prefix_of_ne hs hs' (fields_of_mutatable hs hmutatable) hne,
    not_prefix_of_ne hs' hs (fields_of_mutatable hs' hmutatable') hne.symm⟩

private theorem at?_splice_apart (hm : n.at? p = some m) (hk : n.at? q = some k) (hpq : ¬ p <+: q)
    (hqp : ¬ q <+: p) : (n.splice p [k]).at? q = some k := by
  rw [← updateAt_set hm, at?_updateAt_set hm hpq hqp, hk]

/-! ## Modules that edits make -/

private theorem Grown.shaped (hn : n.Grown) : n.Shaped := by
  induction hn with
  | parsed h => exact shaped_parseLines h
  | deleted _ ht _ made hn =>
    obtain ⟨p, m, hp, hpath, hm⟩ := exists_place_of_mem_statements hn ht
    rw [delete_eq hn hp hpath hm] at made
    cases made
    exact shaped_tidy (shaped_splice hn hm (by simp))
  | inserted _ ht _ hd made hn =>
    obtain ⟨p, m, hp, hpath, hm⟩ := exists_place_of_mem_statements hn ht
    obtain ⟨q, k, hq, hpath', hk⟩ :=
      exists_place_of_mem_statements hn (mutatable_of_mem_donors hd).1
    rw [insert_eq hn hp hpath hm hq hpath' hk] at made
    cases made
    have hm' := hn.within (within_of_at? hm)
    have hk' := hn.within (within_of_at? hk)
    exact shaped_tidy (shaped_splice hn hm (by simp [hm', hk']))
  | swapped _ ht hmutatable hd made hn =>
    obtain ⟨p, field, i, holder, m, hs⟩ := exists_lists hn ht
    obtain ⟨q, field', j, holder', k, hs', -, hpq, hqp⟩ := exists_lists_donor hn hs hmutatable hd
    have hm := hs.at_append_eq
    have hk := hs'.at_append_eq
    rw [swap_eq hn (by simp) hs.path_eq hm (by simp) hs'.path_eq hk hpq hqp] at made
    cases made
    have hm' := hn.within (within_of_at? hm)
    have hk' := hn.within (within_of_at? hk)
    have hfirst := shaped_splice_singleton hn hm hk'
    have hafter := at?_splice_apart hm hk hpq hqp
    exact shaped_tidy (shaped_splice_singleton hfirst hafter hm')
  | exchanged _ _ hmine htheirs _ _ made hn hother =>
    obtain ⟨p, m, hp, hpath, hm⟩ := exists_place_of_mem_statements hn hmine
    obtain ⟨q, k, hq, hpath', hk⟩ := exists_place_of_mem_statements hother htheirs
    rw [exchange_eq hn hother hp hpath hm hq hpath' hk] at made
    cases made
    have hk' := hother.within (within_of_at? hk)
    exact shaped_tidy (shaped_splice_singleton hn hm hk')
  | received _ _ hmine htheirs _ _ made hn hother =>
    obtain ⟨p, m, hp, hpath, hm⟩ := exists_place_of_mem_statements hn hmine
    obtain ⟨q, k, hq, hpath', hk⟩ := exists_place_of_mem_statements hother htheirs
    rw [exchange_eq hn hother hp hpath hm hq hpath' hk] at made
    cases made
    have hm' := hn.within (within_of_at? hm)
    exact shaped_tidy (shaped_splice_singleton hother hk hm')

/-! ## Docstrings -/

private theorem docs_sublist_splice (hat : n.at? p = some holder)
    (hblock : holder.hasBlock field = true)
    (hget : (holder.rawBlock field)[i]? = some m)
    (hdoc : docstrings holder.label field (holder.rawBlock field) ≤ i)
    (hm : ∀ around, m.docsIn around = []) (new : List Node) :
    n.docs.Sublist (n.splice (p ++ [(field, i)]) new).docs := by
  obtain ⟨before, after, inner, heq, hsub⟩ := exists_docsIn_splice hat hblock hget hdoc []
  have hsplit : n.docs = before ++ after := by
    rw [docs, heq, hm, List.append_nil]
  rw [hsplit]
  refine List.Sublist.trans ?_ (hsub new)
  rw [List.append_assoc]
  exact (List.Sublist.refl before).append (List.sublist_append_right _ after)

private theorem docsIn_of_mutatable (hn : n.Shaped) (hs : n.Lists target p field i holder m)
    (h : target.mutatable = true) (around : List Label) : m.docsIn around = [] :=
  docsIn_eq_nil (hn m (within_of_at? hs.at_append_eq)) (fields_of_mutatable hs h)

private theorem docs_splice_mutatable (hn : n.Shaped) (hs : n.Lists target p field i holder m)
    (h : target.mutatable = true) (new : List Node) :
    n.docs.Sublist (n.splice (p ++ [(field, i)]) new).docs :=
  docs_sublist_splice hs.at_eq hs.hasBlock hs.getElem_eq
    (not_docstring hs (docstring_of_mutatable h)) (docsIn_of_mutatable hn hs h) new

/-- A replacement elsewhere leaves a statement in a block of a node with the old label, and makes no
docstring of it. -/
theorem Lists.exists_splice {field' : Field} {j : Nat} {holder' : Node}
    (hs : n.Lists donor q field' j holder' k) (h : donor.docstring = false) (hm : n.at? p = some m)
    (hpq : ¬ p <+: q ++ [(field', j)]) (hqp : ¬ q ++ [(field', j)] <+: p) (l : Node) :
    ∃ holder, (n.splice p [l]).at? q = some holder ∧ holder.hasBlock field' = true ∧
      (holder.rawBlock field')[j]? = some k ∧
      docstrings holder.label field' (holder.rawBlock field') ≤ j := by
  have hafter := at?_updateAt_set (k := l) hm hpq hqp
  obtain ⟨holder, hat, hlabel⟩ := exists_at?_updateAt_set (k := l) hm hs.at_eq
    fun hbelow => hpq (hbelow.trans (List.prefix_append _ _))
  obtain ⟨holder', hat', hblock, hget⟩ := at?_concat.mp (hafter.trans hs.at_append_eq)
  obtain rfl := Option.some.inj (hat.symm.trans hat')
  rw [updateAt_set hm] at hat
  refine ⟨holder, hat, hblock, hget, ?_⟩
  by_contra hlt
  have hheading := (lt_docstrings_iff hget).mp (Nat.lt_of_not_le hlt)
  rw [hlabel] at hheading
  exact absurd ((lt_docstrings_iff hs.getElem_eq).mpr hheading) (Nat.not_lt.mpr (not_docstring hs h))

private theorem docs_splice_splice {field' : Field} {j : Nat} {holder' l : Node} (hn : n.Shaped)
    (hm : n.at? p = some m) (hs : n.Lists donor q field' j holder' k)
    (h : donor.mutatable = true) (hpq : ¬ p <+: q ++ [(field', j)])
    (hqp : ¬ q ++ [(field', j)] <+: p) :
    (n.splice p [k]).docs.Sublist ((n.splice p [k]).splice (q ++ [(field', j)]) [l]).docs := by
  obtain ⟨holder, hat, hblock, hget, hdoc⟩ :=
    hs.exists_splice (docstring_of_mutatable h) hm hpq hqp k
  exact docs_sublist_splice hat hblock hget hdoc (docsIn_of_mutatable hn hs h) [l]

private theorem keepsDocs_tidy_splice (hn : n.Shaped) (hs : n.Lists target p field i holder m)
    (h : target.docstring = false) (hk : k.Shaped) :
    n.KeepsDocs (p ++ [(field, i)]) k (n.splice (p ++ [(field, i)]) [k]).tidy := by
  obtain ⟨before, after, inner, heq, hsub⟩ :=
    exists_docsIn_splice hs.at_eq hs.hasBlock hs.getElem_eq (not_docstring hs h) []
  refine ⟨m, before, after, inner, hs.at_append_eq, heq, ?_⟩
  have hspliced := shaped_splice_singleton hn hs.at_append_eq hk
  have hkept := (hsub [k]).trans (docs_tidy hspliced)
  simpa [docsInAll] using hkept

/-! ## Conservation -/

/-- An edit succeeds, its result is the wanted module up to empty statements, and every docstring of
the module is a docstring of the result, in the same order and inside the same nodes. -/
def Conserves (n wanted : Node) (made : Except PathError Node) : Prop :=
  ∃ r, made = .ok r ∧ r.strip = wanted.strip ∧ n.docs.Sublist r.docs

private theorem conserves_tidy {wanted : Node} (hwanted : wanted.Shaped)
    (hdocs : n.docs.Sublist wanted.docs) : n.Conserves wanted (.ok wanted.tidy) :=
  ⟨_, rfl, strip_tidy wanted, hdocs.trans (docs_tidy hwanted)⟩

private theorem conserves_delete (hn : n.Shaped) (hs : n.Lists target p field i holder m)
    (h : target.mutatable = true) :
    n.Conserves (n.splice (p ++ [(field, i)]) []) (n.delete target) := by
  rw [delete_eq hn (by simp) hs.path_eq hs.at_append_eq]
  exact conserves_tidy (shaped_splice hn hs.at_append_eq (by simp))
    (docs_splice_mutatable hn hs h [])

private theorem conserves_insert (hn : n.Shaped) (hs : n.Lists target p field i holder m)
    (h : target.mutatable = true) (hq : q ≠ []) (hpath : donor.path = q.path)
    (hk : n.at? q = some k) :
    n.Conserves (n.splice (p ++ [(field, i)]) [k, m]) (n.insert target donor) := by
  have hm := hs.at_append_eq
  have hm' := hn.within (within_of_at? hm)
  have hk' := hn.within (within_of_at? hk)
  rw [insert_eq hn (by simp) hs.path_eq hm hq hpath hk]
  exact conserves_tidy (shaped_splice hn hm (by simp [hm', hk']))
    (docs_splice_mutatable hn hs h [k, m])

private theorem conserves_swap {field' : Field} {j : Nat} {holder' : Node} (hn : n.Shaped)
    (hs : n.Lists target p field i holder m) (h : target.mutatable = true)
    (hs' : n.Lists donor q field' j holder' k) (h' : donor.mutatable = true)
    (hpq : ¬ p ++ [(field, i)] <+: q ++ [(field', j)])
    (hqp : ¬ q ++ [(field', j)] <+: p ++ [(field, i)]) :
    n.Conserves ((n.splice (p ++ [(field, i)]) [k]).splice (q ++ [(field', j)]) [m])
      (n.swap target donor) := by
  have hm := hs.at_append_eq
  have hk := hs'.at_append_eq
  have hm' := hn.within (within_of_at? hm)
  have hk' := hn.within (within_of_at? hk)
  rw [swap_eq hn (by simp) hs.path_eq hm (by simp) hs'.path_eq hk hpq hqp]
  have hfirst := shaped_splice_singleton hn hm hk'
  have hboth := shaped_splice_singleton hfirst (at?_splice_apart hm hk hpq hqp) hm'
  have hdocs := docs_splice_mutatable hn hs h [k]
  exact conserves_tidy hboth (hdocs.trans (docs_splice_splice hn hm hs' h' hpq hqp))

private theorem conserves_exchange {mine theirs : Statement} (hn : n.Shaped) (hother : other.Shaped)
    (hmine : mine ∈ n.statements) (htheirs : theirs ∈ other.statements)
    (h : mine.docstring = false) (h' : theirs.docstring = false) :
    ∃ p q m k r s, mine.path = Place.path p ∧ n.at? p = some m ∧
      theirs.path = Place.path q ∧ other.at? q = some k ∧
      n.exchange other mine theirs = .ok (r, s) ∧
      (r.strip = (n.splice p [k]).strip ∧ n.KeepsDocs p k r) ∧
      s.strip = (other.splice q [m]).strip ∧ other.KeepsDocs q m s := by
  obtain ⟨p, field, i, holder, m, hs⟩ := exists_lists hn hmine
  obtain ⟨q, field', j, holder', k, hs'⟩ := exists_lists hother htheirs
  have hm := hs.at_append_eq
  have hk := hs'.at_append_eq
  have hmade := exchange_eq hn hother (by simp) hs.path_eq hm (by simp) hs'.path_eq hk
  exact ⟨_, _, m, k, _, _, hs.path_eq, hm, hs'.path_eq, hk, hmade,
    ⟨strip_tidy _, keepsDocs_tidy_splice hn hs h (hother.within (within_of_at? hk))⟩,
    strip_tidy _, keepsDocs_tidy_splice hother hs' h' (hn.within (within_of_at? hm))⟩

/-- Up to empty statements an edit of a mutatable target deletes the target, puts the donor before it
or changes it with the donor, and an exchange changes two statements of two modules that are neither
definitions nor docstrings. All docstrings outside these statements stay docstrings. -/
theorem edits_conserve (hn : n.Grown) :
    (∀ target ∈ n.statements, target.mutatable = true →
      ∃ p m, target.path = Place.path p ∧ n.at? p = some m ∧
        n.Conserves (n.splice p []) (n.delete target) ∧
        ∀ crossScope, ∀ donor ∈ n.donors crossScope target,
          ∃ q k, donor.path = Place.path q ∧ n.at? q = some k ∧
            n.Conserves (n.splice p [k, m]) (n.insert target donor) ∧
            n.Conserves ((n.splice p [k]).splice q [m]) (n.swap target donor)) ∧
    ∀ other, other.Grown → ∀ mine ∈ n.statements, ∀ theirs ∈ other.statements,
      mine.exchangeable = true → theirs.exchangeable = true →
      ∃ p q m k r s, mine.path = Place.path p ∧ n.at? p = some m ∧
        theirs.path = Place.path q ∧ other.at? q = some k ∧
        n.exchange other mine theirs = .ok (r, s) ∧
        (r.strip = (n.splice p [k]).strip ∧ n.KeepsDocs p k r) ∧
        s.strip = (other.splice q [m]).strip ∧ other.KeepsDocs q m s := by
  have hshaped := hn.shaped
  constructor
  · intro target ht hmutatable
    obtain ⟨p, field, i, holder, m, hs⟩ := exists_lists hshaped ht
    refine ⟨p ++ [(field, i)], m, hs.path_eq, hs.at_append_eq,
      conserves_delete hshaped hs hmutatable, fun crossScope donor hd => ?_⟩
    obtain ⟨q, field', j, holder', k, hs', hmutatable', hpq, hqp⟩ :=
      exists_lists_donor hshaped hs hmutatable hd
    exact ⟨q ++ [(field', j)], k, hs'.path_eq, hs'.at_append_eq,
      conserves_insert hshaped hs hmutatable (by simp) hs'.path_eq hs'.at_append_eq,
      conserves_swap hshaped hs hmutatable hs' hmutatable' hpq hqp⟩
  · intro other hother mine hmine theirs htheirs hmovable hmovable'
    simp only [Statement.exchangeable, Bool.and_eq_true, Bool.not_eq_true'] at hmovable hmovable'
    exact conserves_exchange hshaped hother.shaped hmine htheirs hmovable.2 hmovable'.2

theorem edits_conserve_of_functions :
    ∃ n other, parseLines ["def f(x):", "    'Doubles.'", "    x = x + x", "    return x"] = .ok n ∧
      parseLines ["if y:", "    pass", "else:", "    y = 2"] = .ok other ∧
      (∃ target ∈ n.statements, target.mutatable = true ∧ ∃ donor ∈ n.donors false target,
        ∃ p q m k, n.at? p = some m ∧ n.at? q = some k ∧
          n.Conserves (n.splice p []) (n.delete target) ∧
          n.Conserves (n.splice p [k, m]) (n.insert target donor) ∧
          n.Conserves ((n.splice p [k]).splice q [m]) (n.swap target donor)) ∧
      ∃ mine ∈ n.statements, ∃ theirs ∈ other.statements,
        mine.exchangeable = true ∧ theirs.exchangeable = true ∧
        ∃ p q m k r s, n.at? p = some m ∧ other.at? q = some k ∧
          n.exchange other mine theirs = .ok (r, s) ∧ r.strip = (n.splice p [k]).strip ∧
          s.strip = (other.splice q [m]).strip := by
  have hfirst : (parseLines
      ["def f(x):", "    'Doubles.'", "    x = x + x", "    return x"]).toOption.any
      (fun module => module.statements.any fun target => target.mutatable && target.exchangeable &&
        !(module.donors false target).isEmpty) = true := by
    decide +kernel
  have hsecond : (parseLines ["if y:", "    pass", "else:", "    y = 2"]).toOption.any
      (fun module => module.statements.any (·.exchangeable)) = true := by
    decide +kernel
  cases hparse : parseLines ["def f(x):", "    'Doubles.'", "    x = x + x", "    return x"] with
  | error _ =>
    rw [hparse] at hfirst
    cases hfirst
  | ok n =>
    cases hparse' : parseLines ["if y:", "    pass", "else:", "    y = 2"] with
    | error _ =>
      rw [hparse'] at hsecond
      cases hsecond
    | ok other =>
      rw [hparse] at hfirst
      rw [hparse'] at hsecond
      obtain ⟨target, ht, htarget⟩ := List.any_eq_true.mp hfirst
      obtain ⟨theirs, htheirs, hmovable'⟩ := List.any_eq_true.mp hsecond
      simp only [Bool.and_eq_true, Bool.not_eq_true', List.isEmpty_eq_false_iff] at htarget
      obtain ⟨⟨hmutatable, hmovable⟩, hpool⟩ := htarget
      obtain ⟨donor, hd⟩ := List.exists_mem_of_ne_nil _ hpool
      have hconserve := edits_conserve (.parsed hparse)
      obtain ⟨p, m, -, hm, hdelete, hdonors⟩ := hconserve.1 target ht hmutatable
      obtain ⟨q, k, -, hk, hinsert, hswap⟩ := hdonors false donor hd
      obtain ⟨p', q', m', k', r, s, -, hm', -, hk', hmade, ⟨hr, -⟩, hs, -⟩ :=
        hconserve.2 other (.parsed hparse') target ht theirs htheirs hmovable hmovable'
      exact ⟨n, other, rfl, rfl, ⟨target, ht, hmutatable, donor, hd, p, q, m, k, hm, hk, hdelete,
        hinsert, hswap⟩, target, ht, theirs, htheirs, hmovable, hmovable', p', q', m', k', r, s, hm',
        hk', hmade, hr, hs⟩

end GeneticRepair.Code.Node
