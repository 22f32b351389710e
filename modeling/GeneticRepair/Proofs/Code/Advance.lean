import GeneticRepair.Code.NodeReader
import GeneticRepair.Proofs.Code.Reader

/-!
# What readers leave

A reader takes tokens from the front and puts none back: what it leaves is the rest of what it was
given. As the ways of composing readers are instances, the readers of terms and patterns have it by
inference. Only where a reader decides by cases is there more to say.
-/

namespace GeneticRepair.Code

open Reader

-- The search follows a reader through all of its branches, which takes more than the usual steps.
set_option synthInstance.maxSize 2048

/-- The readers of the next deeper level of nesting put nothing back. -/
class Rules.Advance (r : Rules) : Prop where
  expression : Advances r.expression
  disjunction : Advances r.disjunction
  inversion : Advances r.inversion
  union : Advances r.union
  factor : Advances r.factor
  primary : Advances r.primary
  pattern : Advances r.pattern

attribute [instance] Rules.Advance.expression Rules.Advance.disjunction Rules.Advance.inversion
  Rules.Advance.union Rules.Advance.factor Rules.Advance.primary Rules.Advance.pattern

namespace Rules

variable {r : Rules} [r.Advance] {line : Nat}

/-! ## Expressions -/

instance : Advances expressionNext := by unfold expressionNext; infer_instance

instance : Advances itemNext := by unfold itemNext; infer_instance

instance {t : Term} : Advances (checkTarget t) := by unfold checkTarget; infer_instance

instance : Advances r.starExpression := by unfold starExpression; infer_instance

instance : Advances r.starExpressions := by unfold starExpressions; infer_instance

instance : Advances assignmentNext := by
  unfold assignmentNext
  refine advances_bind fun first => advances_bind fun second => ?_
  split <;> infer_instance

instance : Advances r.namedExpression := by unfold namedExpression; infer_instance

instance : Advances r.starNamedExpression := by unfold starNamedExpression; infer_instance

instance : Advances r.yieldExpression := by unfold yieldExpression; infer_instance

instance : Advances r.yieldOrStarExpressions := by unfold yieldOrStarExpressions; infer_instance

instance : Advances r.targetItem := by
  unfold targetItem
  dsimp only
  infer_instance

instance : Advances r.targets := by unfold targets; infer_instance

instance : Advances clauseNext := by unfold clauseNext; infer_instance

instance : Advances r.clause := by unfold clause; infer_instance

instance : Advances r.clauses := by unfold clauses; infer_instance

instance : Advances literalNext := by
  unfold literalNext
  refine advances_bind fun next => ?_
  split <;> infer_instance

instance : Advances literalToken := by
  unfold literalToken
  refine advances_bind fun line => advances_bind fun next => ?_
  split <;> infer_instance

instance : Advances r.strings := by unfold strings; infer_instance

/-! ## Atoms -/

instance : Advances (r.parenthesised line) := by
  unfold parenthesised
  dsimp only
  refine advances_bind fun _ => advances_ite inferInstance <| advances_bind fun _ =>
    advances_ite inferInstance <| advances_bind fun first => advances_bind fun _ =>
      advances_ite inferInstance <| advances_bind fun found => advances_bind fun _ => ?_
  split <;> infer_instance

instance : Advances (r.bracketed line) := by
  unfold bracketed
  dsimp only
  infer_instance

instance : Advances r.entry := by unfold entry; infer_instance

instance : Advances entryNext := by unfold entryNext; infer_instance

instance {first : Option Term × Term} : Advances (r.dictTail line first) := by
  unfold dictTail
  refine advances_bind fun _ => ?_
  split <;> infer_instance

instance : Advances (r.braced line) := by
  unfold braced
  dsimp only
  infer_instance

instance : Advances r.atom := by
  unfold atom
  refine advances_bind fun line => advances_bind fun next => ?_
  split
  case h_4 => split <;> infer_instance
  all_goals infer_instance

instance : Advances keywordNext := by
  unfold keywordNext
  refine advances_bind fun first => advances_bind fun second => ?_
  split <;> infer_instance

instance {a : Arguments} : Advances (r.argument a) := by
  unfold argument
  dsimp only
  infer_instance

instance {allowGenerator : Bool} : Advances (r.arguments allowGenerator line) := by
  have hgenerator : ∀ a a' : Arguments, Advances (do
      match allowGenerator, a.positional, a.keywords, a'.positional with
      | true, [], [], [t] =>
        if isStarred t then failure
        let cs ← r.clauses
        expectSign ")"
        return some { a' with positional := [.node .generator line (t :: cs)], closed := true }
      | _, _, _, _ => failure : Reader (Option Arguments)) := by
    intro a a'
    split
    · dsimp only
      infer_instance
    · infer_instance
  unfold arguments
  infer_instance

instance : Advances r.sliceBound := by unfold sliceBound; infer_instance

instance : Advances r.index := by
  unfold index
  dsimp only
  refine advances_bind fun line => advances_bind fun _ => advances_ite inferInstance <|
    advances_bind fun _ => advances_ite inferInstance <| advances_bind fun lower =>
      advances_bind fun _ => advances_ite inferInstance ?_
  split <;> infer_instance

instance : Advances indexNext := by unfold indexNext; infer_instance

instance : Advances r.indices := by
  unfold indices
  refine advances_bind fun line => advances_bind fun first => advances_bind fun found =>
    advances_bind fun _ => ?_
  split <;> infer_instance

instance : Advances r.primaryRule := by unfold primaryRule; infer_instance

/-! ## Operators -/

instance : Advances r.awaited := by unfold awaited; infer_instance

instance : Advances r.power := by unfold power; infer_instance

instance : Advances r.factorRule := by unfold factorRule; infer_instance

instance {ops : List (String × Operator)} : Advances (acceptOperator ops) := by
  unfold acceptOperator
  refine advances_bind fun next => ?_
  split
  · split <;> infer_instance
  · infer_instance

instance {levels : List (List (String × Operator))} : Advances (r.binaryFrom levels) := by
  induction levels with
  | nil =>
    unfold binaryFrom
    infer_instance
  | cons ops levels ih =>
    unfold binaryFrom
    refine advances_bind fun line => advances_bind fun first => ?_
    have hstep : ∀ t, Advances (do
        match ← acceptOperator ops with
        | some op => return some (.node (.binary op) line [t, ← r.binaryFrom levels])
        | Option.none => return Option.none : Reader (Option Term)) := by
      intro t
      refine advances_bind fun op => ?_
      split <;> infer_instance
    infer_instance

instance : Advances r.unionRule := by unfold unionRule; infer_instance

instance : Advances acceptComparison := by
  unfold acceptComparison
  refine advances_bind fun op => ?_
  split <;> infer_instance

instance : Advances r.comparisonRule := by
  unfold comparisonRule
  refine advances_bind fun line => advances_bind fun first => ?_
  have hstep : ∀ found : List Operator × List Term, Advances (do
      match ← acceptComparison with
      | some op => return some (op :: found.1, (← r.unionRule) :: found.2)
      | Option.none => return Option.none : Reader (Option (List Operator × List Term))) := by
    intro found
    refine advances_bind fun op => ?_
    split <;> infer_instance
  infer_instance

instance : Advances r.inversionRule := by unfold inversionRule; infer_instance

instance {word : String} {op : Operator} {operand : Reader Term} [Advances operand] :
    Advances (joinedBy word op operand) := by
  unfold joinedBy
  infer_instance

instance : Advances r.conjunction := by unfold conjunction; infer_instance

instance : Advances r.disjunctionRule := by unfold disjunctionRule; infer_instance

/-! ## Parameters -/

instance {annotated starHint : Bool} : Advances (r.parameter annotated starHint) := by
  unfold parameter
  dsimp only
  infer_instance

instance : Advances r.default? := by unfold default?; infer_instance

instance {annotated : Bool} {s : Signature} : Advances (r.signatureItem annotated s) := by
  unfold signatureItem
  dsimp only
  infer_instance

instance {annotated : Bool} {closing : String} : Advances (r.signature annotated closing) := by
  unfold signature
  dsimp only
  infer_instance

instance : Advances r.expressionRule := by unfold expressionRule; infer_instance

/-! ## Patterns -/

instance : Advances numberToken := by
  unfold numberToken
  refine advances_bind fun next => ?_
  split <;> infer_instance

instance : Advances numericPattern := by
  unfold numericPattern
  dsimp only
  infer_instance

instance : Advances r.literalValue? := by
  unfold literalValue?
  refine advances_bind fun next => ?_
  split <;> infer_instance

instance : Advances constant? := by
  unfold constant?
  refine advances_bind fun next => ?_
  split
  · split <;> infer_instance
  · infer_instance

instance : Advances dottedTerm := by unfold dottedTerm; infer_instance

instance : Advances captureNext := by
  unfold captureNext
  refine advances_bind fun next => ?_
  split <;> infer_instance

instance : Advances captured := by
  unfold captured
  dsimp only
  infer_instance

instance : Advances starPattern := by unfold starPattern; infer_instance

instance : Advances r.maybeStarPattern := by unfold maybeStarPattern; infer_instance

instance : Advances patternNext := by unfold patternNext; infer_instance

instance {closing : String} : Advances (r.patternsUntil closing) := by
  unfold patternsUntil
  infer_instance

instance : Advances r.mappingKey := by
  unfold mappingKey
  refine advances_bind fun line => advances_bind fun value => ?_
  split
  · infer_instance
  · refine advances_bind fun constant => ?_
    split
    · infer_instance
    · refine advances_bind fun t => ?_
      split <;> infer_instance

instance {m : MappingItems} : Advances (r.mappingItem m) := by unfold mappingItem; infer_instance

instance : Advances (r.mappingPattern line) := by unfold mappingPattern; infer_instance

instance {c : ClassItems} : Advances (r.classItem c) := by
  unfold classItem
  dsimp only
  infer_instance

instance {cls : Term} : Advances (r.classPattern line cls) := by unfold classPattern; infer_instance

instance : Advances (r.namedPattern line) := by
  unfold namedPattern
  refine advances_bind fun _ => advances_ite inferInstance <| advances_bind fun t =>
    advances_bind fun _ => advances_ite inferInstance <| advances_bind fun _ =>
      advances_ite inferInstance ?_
  split <;> infer_instance

instance : Advances r.closedPattern := by
  have hgroup : ∀ line, Advances (do
      match ← r.patternsUntil ")" with
      | ([t], false) => if isStarPattern t then failure else return t
      | (ts, _) => return .node .sequencePattern line ts : Reader Term) := by
    intro line
    refine advances_bind fun found => ?_
    split <;> infer_instance
  unfold closedPattern
  refine advances_bind fun line => advances_bind fun value => ?_
  split
  · infer_instance
  · refine advances_bind fun constant => ?_
    split <;> infer_instance

instance : Advances r.patternRule := by unfold patternRule; infer_instance

instance : Advances r.casePattern := by
  unfold casePattern
  refine advances_bind fun line => advances_bind fun first => advances_bind fun found => ?_
  split <;> infer_instance

/-- However deep terms may nest, their readers put nothing back. -/
instance advance_upTo (depth : Nat) : (upTo depth).Advance := by
  induction depth with
  | zero => constructor <;> exact advances_failure
  | succ depth ih =>
    exact {
      expression := inferInstanceAs (Advances (upTo depth).expressionRule)
      disjunction := inferInstanceAs (Advances (upTo depth).disjunctionRule)
      inversion := inferInstanceAs (Advances (upTo depth).inversionRule)
      union := inferInstanceAs (Advances (upTo depth).unionRule)
      factor := inferInstanceAs (Advances (upTo depth).factorRule)
      primary := inferInstanceAs (Advances (upTo depth).primaryRule)
      pattern := inferInstanceAs (Advances (upTo depth).patternRule) }

end Rules

/-! ## Headers of statements -/

namespace NodeReader

variable {r : Rules} [r.Advance]

instance {first : Term} : Advances (assignments r first) := by unfold assignments; infer_instance

instance : Advances dottedName := by unfold dottedName; infer_instance

instance : Advances asName? := by unfold asName?; infer_instance

instance {name : Reader String} [Advances name] : Advances (imported name) := by
  unfold imported
  infer_instance

instance : Advances importLevel := by unfold importLevel; infer_instance

instance : Advances nameNext := by
  unfold nameNext
  refine advances_bind fun next => ?_
  split <;> infer_instance

instance : Advances importedNames := by unfold importedNames; infer_instance

instance {begins : Reader Bool} {t : Reader Term} [Advances begins] [Advances t] :
    Advances (optionalExpression begins t) := by
  unfold optionalExpression
  infer_instance

instance : Advances lineEnd := by unfold lineEnd; infer_instance

instance : Advances (managed r) := by unfold managed; infer_instance

instance : Advances (parenthesisedContexts r) := by
  unfold parenthesisedContexts
  dsimp only
  infer_instance

instance : Advances (contexts r) := by
  unfold contexts
  refine advances_bind fun found => ?_
  split <;> infer_instance

instance : Advances (subject r) := by
  unfold subject
  refine advances_bind fun line => advances_bind fun first => advances_bind fun found => ?_
  split <;> infer_instance

end NodeReader

end GeneticRepair.Code
