import GeneticRepair.Code.OperatorSite
import GeneticRepair.Proofs.Code.Edit
import GeneticRepair.Proofs.Code.NodeReader

/-!
# Transformations

Every transformation of a module that has been parsed gives a module in normal form.
-/

namespace GeneticRepair.Code.Node

variable {n k : Node} {target donor : Statement}

/-- The module is in normal form: every node follows the rules, and there is nothing to tidy. -/
structure Proper (module : Node) : Prop where
  wellFormed : ∀ n, Within n module → n.WellFormed
  tidy_eq : module.tidy = module

theorem proper_tidy (module : Node) : module.tidy.Proper :=
  ⟨wellFormed_tidy module, tidy_tidy module⟩

theorem exists_insert (hn : n.Shaped) (ht : target ∈ n.statements) (hd : donor ∈ n.statements) :
    ∃ r, n.insert target donor = .ok (tidy r) := by
  obtain ⟨p, m, hp, hpath, hm⟩ := exists_place_of_mem_statements hn ht
  obtain ⟨q, d, hq, hpath', hd⟩ := exists_place_of_mem_statements hn hd
  exact ⟨_, insert_eq hn hp hpath hm hq hpath' hd⟩

theorem exists_delete (hn : n.Shaped) (ht : target ∈ n.statements) :
    ∃ r, n.delete target = .ok (tidy r) := by
  obtain ⟨p, m, hp, hpath, hm⟩ := exists_place_of_mem_statements hn ht
  exact ⟨_, delete_eq hn hp hpath hm⟩

theorem exists_swap (hn : n.Shaped) (ht : target ∈ n.statements) (hd : donor ∈ n.statements) :
    ∃ r, n.swap target donor = .ok (tidy r) := by
  obtain ⟨p, m, hp, hpath, hm⟩ := exists_place_of_mem_statements hn ht
  obtain ⟨q, d, hq, hpath', hd⟩ := exists_place_of_mem_statements hn hd
  rw [swap, hpath, hpath', swapAt_place hn hp hm hq hd]
  exact ⟨_, rfl⟩

theorem exists_exchange {other : Node} {mine theirs : Statement} (hn : n.Shaped)
    (hother : other.Shaped) (hmine : mine ∈ n.statements) (htheirs : theirs ∈ other.statements) :
    ∃ r s, n.exchange other mine theirs = .ok (tidy r, tidy s) := by
  obtain ⟨p, m, hp, hpath, hm⟩ := exists_place_of_mem_statements hn hmine
  obtain ⟨q, d, hq, hpath', hd⟩ := exists_place_of_mem_statements hother htheirs
  exact ⟨_, _, exchange_eq hn hother hp hpath hm hq hpath' hd⟩

private theorem exists_withOperator {site : OperatorSite} (hsite : site ∈ n.operatorSites)
    (op : Operator) : ∃ r, n.withOperator site op = tidy r := by
  obtain ⟨⟨x, index⟩, hx, hmem⟩ := List.mem_flatMap.mp hsite
  obtain ⟨⟨operator, position⟩, -, rfl⟩ := List.mem_map.mp hmem
  have hget : n.operations[index]? = some x := List.mk_mem_zipIdx_iff_getElem?.mp hx
  exact ⟨n.setOperator position op x.address, by simp only [withOperator, hget]⟩

/-- Every transformation of a parsed module succeeds and gives a module in normal form. It does not
matter whether a target is mutatable, or what the exchanged statements are. -/
theorem transformations_proper {lines : List String} {module : Node}
    (h : parseLines lines = .ok module) :
    (∀ target ∈ module.statements,
      (∃ r, module.delete target = .ok r ∧ r.Proper) ∧
      ∀ crossScope, ∀ donor ∈ module.donors crossScope target,
        (∃ r, module.insert target donor = .ok r ∧ r.Proper) ∧
        ∃ r, module.swap target donor = .ok r ∧ r.Proper) ∧
    (∀ lines' other, parseLines lines' = .ok other →
      ∀ mine ∈ module.statements, ∀ theirs ∈ other.statements,
        ∃ r s, module.exchange other mine theirs = .ok (r, s) ∧ r.Proper ∧ s.Proper) ∧
    ∀ site ∈ module.operatorSites, ∀ op ∈ site.alternatives,
      (module.withOperator site op).Proper := by
  have hshaped := shaped_parseLines h
  refine ⟨fun target ht => ⟨?_, fun crossScope donor hdonor => ?_⟩, ?_, ?_⟩
  · obtain ⟨r, hr⟩ := exists_delete hshaped ht
    exact ⟨_, hr, proper_tidy r⟩
  · have hd := (List.mem_filter.mp hdonor).1
    obtain ⟨r, hr⟩ := exists_insert hshaped ht hd
    obtain ⟨s, hs⟩ := exists_swap hshaped ht hd
    exact ⟨⟨_, hr, proper_tidy r⟩, _, hs, proper_tidy s⟩
  · intro lines' other hother mine hmine theirs htheirs
    obtain ⟨r, s, hrs⟩ := exists_exchange hshaped (shaped_parseLines hother) hmine htheirs
    exact ⟨_, _, hrs, proper_tidy r, proper_tidy s⟩
  · intro site hsite op _
    obtain ⟨r, hr⟩ := exists_withOperator hsite op
    rw [hr]
    exact proper_tidy r

theorem transformations_of_function :
    ∃ module, parseLines ["def f(x):", "    pass", "    return x + 1"] = .ok module ∧
      module.statements.length = 3 ∧ module.operatorSites.length = 1 ∧
      (∀ target ∈ module.statements, ∃ r, module.delete target = .ok r ∧ r.Proper) ∧
      ∀ site ∈ module.operatorSites, ∀ op ∈ site.alternatives,
        (module.withOperator site op).Proper := by
  have hcounts : (parseLines ["def f(x):", "    pass", "    return x + 1"]).toOption.map
      (fun module => (module.statements.length, module.operatorSites.length)) = some (3, 1) := by
    decide +kernel
  obtain ⟨module, hparse, hcount⟩ := exists_ok_of_map_eq hcounts
  simp only [Prod.mk.injEq] at hcount
  have hproper := transformations_proper hparse
  exact ⟨module, hparse, hcount.1, hcount.2, fun target ht => (hproper.1 target ht).1,
    hproper.2.2⟩

end GeneticRepair.Code.Node
