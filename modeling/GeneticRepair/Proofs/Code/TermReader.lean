import GeneticRepair.Code.PatternReader
import GeneticRepair.Proofs.Code.Reader

/-!
# Constants among the terms that are read

A constant that is read stands alone: it is a literal or a word, and no rule puts anything below it.
-/

namespace GeneticRepair.Code

open Reader

/-- Nothing stands below a constant. -/
def Term.Atomic (t : Term) : Prop :=
  ∀ c, t.head = .constant c → t.children = []

private theorem Term.atomic_of_children_eq_nil {t : Term} (h : t.children = []) : t.Atomic :=
  fun _ _ => h

private theorem Term.atomic_of_head {t : Term} (h : ∀ c, t.head ≠ .constant c) : t.Atomic :=
  fun c hc => absurd hc (h c)

namespace Rules

variable {r : Rules} {line : Nat}

private theorem yields_node {head : Head} {ts : List Term} (h : ∀ c, head ≠ .constant c) :
    Yields (pure (.node head line ts)) Term.Atomic :=
  yields_pure (Term.atomic_of_head h)

/-! ## Literals -/

private theorem yields_strings : Yields r.strings Term.Atomic := by
  unfold strings
  refine yields_bind fun line => yields_bind fun found => yields_lift fun t ht => ?_
  unfold literals at ht
  split at ht
  · cases ht
  · simp only at ht
    split at ht
    · obtain ⟨bs, -, ht⟩ := Option.bind_eq_some_iff.mp ht
      cases ht
      exact Term.atomic_of_children_eq_nil rfl
    · obtain ⟨parts, -, ht⟩ := Option.bind_eq_some_iff.mp ht
      split at ht
      · cases ht
        exact Term.atomic_of_head (by simp)
      · cases ht
        exact Term.atomic_of_children_eq_nil rfl

/-! ## Sequences of expressions -/

private theorem atomic_tupleOf {found : List Term × Bool} (h : ∀ t ∈ found.1, t.Atomic) :
    (tupleOf line found).Atomic := by
  unfold tupleOf
  split
  · exact h _ List.mem_cons_self
  · exact Term.atomic_of_head (by simp)

variable (hr : Yields r.expression Term.Atomic)

include hr

private theorem yields_starExpression : Yields r.starExpression Term.Atomic :=
  yields_bind fun _ => yields_bind fun _ =>
    yields_ite (yields_bind fun _ => yields_node (by simp)) hr

private theorem yields_starExpressions : Yields r.starExpressions Term.Atomic := by
  unfold starExpressions
  refine yields_bind fun line => (yields_starExpression hr).bind fun first hfirst => ?_
  exact (yields_commaTail (yields_starExpression hr) hfirst).bind fun found hfound =>
    yields_pure (atomic_tupleOf hfound)

private theorem yields_namedExpression : Yields r.namedExpression Term.Atomic := by
  unfold namedExpression
  refine yields_bind fun line => yields_bind fun assigned => yields_ite ?_ ?_
  · exact yields_bind fun _ => yields_bind fun _ => yields_bind fun _ => yields_node (by simp)
  · refine hr.bind fun t ht => yields_bind fun _ => ?_
    exact yields_ite yields_failure (yields_pure ht)

private theorem yields_starNamedExpression : Yields r.starNamedExpression Term.Atomic :=
  yields_bind fun _ => yields_bind fun _ =>
    yields_ite (yields_bind fun _ => yields_node (by simp)) (yields_namedExpression hr)

omit hr in
private theorem yields_yieldExpression : Yields r.yieldExpression Term.Atomic := by
  unfold yieldExpression
  refine yields_bind fun line => yields_bind fun _ => yields_bind fun _ => yields_ite ?_ ?_
  · exact yields_bind fun _ => yields_node (by simp)
  · refine yields_bind fun _ => yields_ite ?_ (yields_node (by simp))
    exact yields_bind fun _ => yields_node (by simp)

theorem yields_yieldOrStarExpressions : Yields r.yieldOrStarExpressions Term.Atomic :=
  yields_bind fun _ => yields_ite yields_yieldExpression (yields_starExpressions hr)

/-! ## Atoms -/

private theorem yields_parenthesised : Yields (r.parenthesised line) Term.Atomic := by
  unfold parenthesised
  refine yields_bind fun _ => yields_ite (yields_node (by simp)) ?_
  refine yields_bind fun _ => yields_ite ?_ ?_
  · exact yields_yieldExpression.bind fun t ht => yields_bind fun _ => yields_pure ht
  · refine (yields_starNamedExpression hr).bind fun first hfirst => yields_bind fun _ => ?_
    refine yields_ite ?_ ?_
    · have hrest : Yields (do
          let cs ← r.clauses
          expectSign ")"
          return .node .generator line (first :: cs)) Term.Atomic :=
        yields_bind fun _ => yields_bind fun _ => yields_node (by simp)
      exact yields_ite (yields_bind fun _ => hrest) hrest
    · refine (yields_commaTail (yields_starNamedExpression hr) hfirst).bind fun found hfound =>
        yields_bind fun _ => ?_
      obtain ⟨ts, closed⟩ := found
      dsimp only
      split
      · exact yields_ite yields_failure (yields_pure (hfound _ List.mem_cons_self))
      · exact yields_node (by simp)

omit hr in
private theorem yields_bracketed : Yields (r.bracketed line) Term.Atomic := by
  unfold bracketed
  refine yields_bind fun _ => yields_ite (yields_node (by simp)) (yields_bind fun first => ?_)
  refine yields_bind fun _ => yields_ite (yields_ite ?_ ?_) ?_
  · exact yields_bind fun _ => yields_bind fun _ => yields_bind fun _ => yields_node (by simp)
  · exact yields_bind fun _ => yields_bind fun _ => yields_node (by simp)
  · exact yields_bind fun _ => yields_bind fun _ => yields_node (by simp)

omit hr in
private theorem yields_dictTail {first : Option Term × Term} :
    Yields (r.dictTail line first) Term.Atomic := by
  unfold dictTail
  refine yields_bind fun _ => ?_
  split
  · exact yields_bind fun _ => yields_bind fun _ => yields_node (by simp)
  · exact yields_bind fun _ => yields_bind fun _ => yields_node (by simp)

omit hr in
private theorem yields_braced : Yields (r.braced line) Term.Atomic := by
  unfold braced
  refine yields_bind fun _ => yields_ite (yields_node (by simp)) ?_
  refine yields_bind fun _ => yields_ite (yields_bind fun _ => yields_dictTail) ?_
  refine yields_bind fun _ => yields_bind fun first => yields_bind fun _ => yields_ite ?_ ?_
  · refine yields_ite (yields_bind fun _ => ?_) ?_
    · exact yields_bind fun _ => yields_bind fun _ => yields_dictTail
    · exact yields_bind fun _ => yields_bind fun _ => yields_dictTail
  · refine yields_bind fun _ => yields_ite (yields_ite ?_ ?_) ?_
    · exact yields_bind fun _ => yields_bind fun _ => yields_bind fun _ => yields_node (by simp)
    · exact yields_bind fun _ => yields_bind fun _ => yields_node (by simp)
    · exact yields_bind fun _ => yields_bind fun _ => yields_node (by simp)

private theorem yields_atom : Yields r.atom Term.Atomic := by
  have hleaf : ∀ (head : Head) (line : Nat), Yields (pure (.node head line [])) Term.Atomic :=
    fun _ _ => yields_pure (Term.atomic_of_children_eq_nil rfl)
  unfold atom
  refine yields_bind fun line => yields_bind fun next => ?_
  split
  · exact yields_bind fun _ => hleaf _ _
  · exact yields_bind fun _ => hleaf _ _
  · exact yields_strings
  · split
    · exact yields_bind fun _ => hleaf _ _
    · exact yields_failure
  · exact yields_bind fun _ => yields_parenthesised hr
  · exact yields_bind fun _ => yields_bracketed
  · exact yields_bind fun _ => yields_braced
  · exact yields_bind fun _ => hleaf _ _
  · exact yields_failure

/-! ## Operators -/

private theorem yields_primaryRule : Yields r.primaryRule Term.Atomic := by
  unfold primaryRule
  refine yields_bind fun line => (yields_atom hr).bind fun first hfirst => ?_
  refine yields_loop (fun t _ => ?_) hfirst
  have hgrown : ∀ {head : Head} {ts : List Term}, (∀ c, head ≠ .constant c) →
      Yields (pure (some (Term.node head line ts))) fun o => ∀ u, o = some u → u.Atomic := by
    intro head ts h
    refine yields_pure ?_
    rintro _ ⟨⟩
    exact Term.atomic_of_head h
  refine yields_bind fun opening => yields_bind fun _ => yields_ite ?_ ?_
  · exact yields_bind fun _ => hgrown (by simp)
  · refine yields_bind fun _ => yields_ite (yields_bind fun _ => hgrown (by simp)) ?_
    refine yields_bind fun _ => yields_ite (yields_bind fun _ => hgrown (by simp)) ?_
    exact yields_pure fun _ h => nomatch h

private theorem yields_power : Yields r.power Term.Atomic := by
  have hawaited : Yields r.awaited Term.Atomic :=
    yields_bind fun _ => yields_bind fun _ =>
      yields_ite (yields_bind fun _ => yields_node (by simp)) (yields_primaryRule hr)
  unfold power
  refine yields_bind fun line => hawaited.bind fun base hbase => yields_bind fun _ => ?_
  exact yields_ite (yields_bind fun _ => yields_node (by simp)) (yields_pure hbase)

private theorem yields_factorRule : Yields r.factorRule Term.Atomic := by
  have hsigned : ∀ (op : UnaryOperator) (line : Nat),
      Yields (do return .node (.unary op) line [← r.factor]) Term.Atomic :=
    fun _ _ => yields_bind fun _ => yields_node (by simp)
  unfold factorRule
  refine yields_bind fun line => yields_bind fun _ => yields_ite (hsigned _ _) ?_
  refine yields_bind fun _ => yields_ite (hsigned _ _) ?_
  exact yields_bind fun _ => yields_ite (hsigned _ _) (yields_power hr)

private theorem yields_binaryFrom (levels : List (List (String × Operator))) :
    Yields (r.binaryFrom levels) Term.Atomic := by
  induction levels with
  | nil => exact yields_factorRule hr
  | cons ops levels ih =>
    unfold binaryFrom
    refine yields_bind fun line => ih.bind fun first hfirst => ?_
    refine yields_loop (fun t _ => yields_bind fun op? => ?_) hfirst
    split
    · refine yields_bind fun operand => yields_pure ?_
      rintro _ ⟨⟩
      exact Term.atomic_of_head (by simp)
    · refine yields_pure ?_
      rintro _ ⟨⟩

private theorem yields_comparisonRule : Yields r.comparisonRule Term.Atomic := by
  unfold comparisonRule
  refine yields_bind fun line => (yields_binaryFrom hr binaryLevels).bind fun first hfirst => ?_
  refine yields_bind fun found => ?_
  exact yields_ite (yields_pure hfirst) (yields_node (by simp))

private theorem yields_inversionRule : Yields r.inversionRule Term.Atomic :=
  yields_bind fun _ => yields_bind fun _ =>
    yields_ite (yields_bind fun _ => yields_node (by simp)) (yields_comparisonRule hr)

omit hr in
private theorem yields_joinedBy {word : String} {op : Operator} {operand : Reader Term}
    (h : Yields operand Term.Atomic) : Yields (joinedBy word op operand) Term.Atomic := by
  unfold joinedBy
  refine yields_bind fun line => h.bind fun first hfirst => yields_bind fun rest => ?_
  exact yields_ite (yields_pure hfirst) (yields_node (by simp))

private theorem yields_disjunctionRule : Yields r.disjunctionRule Term.Atomic :=
  yields_joinedBy (yields_joinedBy (yields_inversionRule hr))

private theorem yields_expressionRule : Yields r.expressionRule Term.Atomic := by
  unfold expressionRule
  refine yields_bind fun line => yields_bind fun _ => yields_ite ?_ ?_
  · exact yields_bind fun _ => yields_bind fun _ => yields_node (by simp)
  · refine (yields_disjunctionRule hr).bind fun value hvalue => yields_bind fun _ => ?_
    refine yields_ite ?_ (yields_pure hvalue)
    exact yields_bind fun _ => yields_bind fun _ => yields_bind fun _ => yields_node (by simp)

omit hr in
/-- However deep expressions may nest, nothing stands below a constant. -/
theorem yields_expression_upTo (depth : Nat) : Yields (upTo depth).expression Term.Atomic := by
  induction depth with
  | zero => exact yields_failure
  | succ depth ih => exact yields_expressionRule ih

end Rules

end GeneticRepair.Code
