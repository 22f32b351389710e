import GeneticRepair.Proofs.Code.Conservation
import Mathlib.Data.List.Basic

/-!
# Headers of statements

A compound statement counts by its header, so that the statements of a tree at all depths form one
list. Normal form leaves the list as it is, and an exchange of statements between two trees only
moves parts of it from one tree to the other.
-/

namespace GeneticRepair.Code.Node

variable {n m k other r s : Node} {field : Field} {i : Nat} {p q : Place}
  {mine theirs : Statement}

def header (n : Node) : Node :=
  simple n.label n.span n.terms

def ownHeader (n : Node) : List Node :=
  if n.label.isStatement ∧ n.isEmpty = false then [n.header] else []

mutual

/-- The headers of the statements of a tree that are not empty, at all depths. -/
def headers : Node → List Node
  | mk l s ts b o h f c =>
    (mk l s ts b o h f c).ownHeader ++ headersIn b ++ headersIn o ++ headersIn h ++ headersIn f ++
      headersIn c

def headersIn : List Node → List Node
  | [] => []
  | n :: ns => headers n ++ headersIn ns

end

private theorem headersIn_eq (ns : List Node) : headersIn ns = ns.flatMap headers := by
  induction ns with
  | nil => rfl
  | cons n ns ih => rw [headersIn, ih, List.flatMap_cons]

private theorem headers_eq (n : Node) : n.headers = n.ownHeader ++ n.children.flatMap headers := by
  obtain ⟨l, s, ts, b, o, h, f, c⟩ := n
  simp only [headers, headersIn_eq, children, List.flatMap_append, List.append_assoc]

private theorem ownHeader_congr (h : m.header = n.header) : m.ownHeader = n.ownHeader := by
  have hlabel : m.label = n.label := congrArg (·.label) h
  have hempty : m.isEmpty = n.isEmpty := isEmpty_congr hlabel (congrArg (·.terms) h)
  rw [ownHeader, ownHeader, h, hlabel, hempty]

/-! ## Normal form -/

theorem header_everywhere_tidyBlocks (outer : Span) (n : Node) :
    (everywhere tidyBlocks outer n).header = n.header := by
  obtain ⟨l, s, ts, b, o, h, f, c⟩ := n
  rw [everywhere_mk]
  rfl

theorem header_setBlock (n : Node) (field : Field) (ns : List Node) :
    (n.setBlock field ns).header = n.header := by
  rw [header, label_setBlock, span_setBlock, terms_setBlock, header]

private theorem headers_of_isEmpty (hn : n.Plain) (h : n.isEmpty = true) : n.headers = [] := by
  rw [headers_eq, children_eq_nil hn (fields_of_isEmpty h), ownHeader, if_neg (by simp [h])]
  rfl

private theorem headers_everywhere_tidyBlocks (hn : n.Shaped) (outer : Span) :
    (everywhere tidyBlocks outer n).headers = n.headers := by
  induction n using children_induction generalizing outer with
  | step n ih =>
    have hblock : ∀ field, ((everywhere tidyBlocks outer n).rawBlock field).flatMap headers =
        (n.rawBlock field).flatMap headers := by
      intro field
      have hshaped : ∀ m ∈ n.rawBlock field, m.Shaped := fun m hm =>
        hn.of_mem (n.rawBlock_subset_children field hm)
      rw [flatMap_everywhere_tidyBlocks (fun _ => rfl) fun m hm span hempty =>
        headers_of_isEmpty (shaped_everywhere_tidyBlocks (hshaped m hm) span _ (.self _)) hempty]
      exact List.flatMap_congr fun m hm =>
        ih m (n.rawBlock_subset_children field hm) (hshaped m hm) _
    rw [headers_eq, headers_eq n, ownHeader_congr (header_everywhere_tidyBlocks outer n),
      children_eq, children_eq n, List.flatMap_assoc, List.flatMap_assoc]
    simp only [hblock]

private theorem headers_tidy (hn : n.Shaped) : n.tidy.headers = n.headers :=
  headers_everywhere_tidyBlocks hn outermost

/-! ## Exchanges -/

private theorem exists_headers_splice_singleton (h : n.hasBlock field = true)
    (hm : (n.rawBlock field)[i]? = some m) :
    ∃ before after, n.headers = before ++ m.headers ++ after ∧
      ∀ new, (n.splice [(field, i)] new).headers = before ++ new.flatMap headers ++ after := by
  obtain ⟨before, after, hself, hspliced⟩ := exists_children_splice_singleton h hm
  refine ⟨n.ownHeader ++ before.flatMap headers, after.flatMap headers, ?_, fun new => ?_⟩
  · rw [headers_eq, hself]
    simp only [List.flatMap_append, List.flatMap_cons, List.append_assoc]
  · rw [headers_eq, hspliced, splice_step, ownHeader_congr (header_setBlock n field _)]
    simp only [List.flatMap_append, List.append_assoc]

private theorem exists_headers_splice (hp : p ≠ []) (h : n.at? p = some m) :
    ∃ before after, n.headers = before ++ m.headers ++ after ∧
      ∀ new, (n.splice p new).headers = before ++ new.flatMap headers ++ after := by
  induction p generalizing n with
  | nil => exact absurd rfl hp
  | cons step p ih =>
    obtain ⟨field, i⟩ := step
    obtain ⟨hblock, child, hchild, hrest⟩ := at?_cons.mp h
    obtain ⟨before, after, heq, hspliced⟩ := exists_headers_splice_singleton hblock hchild
    cases p with
    | nil =>
      obtain rfl := Option.some.inj hrest
      exact ⟨before, after, heq, hspliced⟩
    | cons step p =>
      obtain ⟨before', after', heq', hspliced'⟩ := ih (List.cons_ne_nil _ _) hrest
      refine ⟨before ++ before', after' ++ after, ?_, fun new => ?_⟩
      · rw [heq, heq']
        simp only [List.append_assoc]
      · rw [splice_cons hchild (List.cons_ne_nil _ _), hspliced, List.flatMap_singleton, hspliced']
        simp only [List.append_assoc]

/-- An exchange of statements between two modules only moves statements that are not empty. -/
theorem headers_exchange_perm (hn : n.Shaped) (hother : other.Shaped)
    (hmine : mine ∈ n.statements) (htheirs : theirs ∈ other.statements)
    (h : n.exchange other mine theirs = .ok (r, s)) :
    (r.headers ++ s.headers).Perm (n.headers ++ other.headers) := by
  obtain ⟨p, m, hp, hpath, hm⟩ := exists_place_of_mem_statements hn hmine
  obtain ⟨q, k, hq, hpath', hk⟩ := exists_place_of_mem_statements hother htheirs
  rw [exchange_eq hn hother hp hpath hm hq hpath' hk] at h
  cases h
  have hm' := hn.within (within_of_at? hm)
  have hk' := hother.within (within_of_at? hk)
  obtain ⟨before, after, heq, hspliced⟩ := exists_headers_splice hp hm
  obtain ⟨before', after', heq', hspliced'⟩ := exists_headers_splice hq hk
  rw [headers_tidy (shaped_splice_singleton hn hm hk'),
    headers_tidy (shaped_splice_singleton hother hk hm'), hspliced, hspliced', heq, heq',
    List.flatMap_singleton, List.flatMap_singleton]
  classical
  refine List.perm_iff_count.mpr fun n => ?_
  simp only [List.count_append]
  omega

end GeneticRepair.Code.Node
