import GeneticRepair.Code.NodeReader
import GeneticRepair.Proofs.Code.Shape
import GeneticRepair.Proofs.Code.TermReader

/-!
# The shape of what is read

Every statement that is read has the blocks of its label and no others, and nothing stands below
what an empty statement consists of.
-/

namespace GeneticRepair.Code

open Reader

namespace NodeReader

variable {line : Nat} {l : Label} {ts : List Term} {r : Rules}

private theorem yields_finish {build : Span → Node} (h : ∀ span, (build span).Regular) :
    Yields (finish line build) Node.Regular :=
  yields_bind fun endLine => yields_pure (h ⟨line, endLine⟩)

private theorem yields_finishSimple (hl : l ∉ [Label.loose, .pass, .expression]) :
    Yields (finishSimple line l ts) Node.Regular := by
  simp only [List.mem_cons, List.not_mem_nil, or_false, not_or] at hl
  obtain ⟨hloose, hpass, hexpression⟩ := hl
  refine yields_finish fun span => Node.regular_simple hloose fun hempty => ?_
  rcases Node.isEmpty_iff.mp hempty with h | ⟨h, -⟩
  · exact absurd h hpass
  · exact absurd h hexpression

private theorem yields_pass : Yields (finishSimple line .pass []) Node.Regular :=
  yields_finish fun _ => Node.regular_simple (by simp) fun _ _ ht => nomatch ht

private theorem yields_finishExpression {t : Term} (ht : t.Atomic) :
    Yields (finishSimple line .expression [t]) Node.Regular := by
  refine yields_finish fun span => Node.regular_simple (by simp) fun hempty u hu => ?_
  obtain rfl := List.mem_singleton.mp hu
  rcases Node.isEmpty_iff.mp hempty with h | ⟨-, line, ts, hterms⟩
  · cases h
  · obtain rfl := List.head_eq_of_cons_eq hterms
    obtain rfl := ht _ rfl
    exact ⟨_, line, rfl⟩

/-! ## Simple statements -/

private theorem yields_annotated {first : Term} {simple : Bool} : Yields (do
    let hint ← r.expression
    let value ← if ← acceptSign "=" then pure [← r.yieldOrStarExpressions] else pure []
    finishSimple line (.annotated simple) (first :: hint :: value)) Node.Regular := by
  refine yields_bind fun hint => yields_bind fun b => yields_ite ?_ ?_
  · exact yields_bind fun _ => yields_bind fun _ => yields_finishSimple (by simp)
  · exact yields_bind fun _ => yields_finishSimple (by simp)

private theorem yields_expressionStatement (hr : Yields r.expression Term.Atomic) :
    Yields (expressionStatement r) Node.Regular := by
  unfold expressionStatement
  refine yields_bind fun line => yields_bind fun opening => yields_bind fun start =>
    (Rules.yields_yieldOrStarExpressions hr).bind fun first hfirst => yields_bind fun op? => ?_
  split
  · exact yields_guard fun _ => yields_bind fun _ => yields_finishSimple (by simp)
  · refine yields_bind fun colon => yields_ite ?_ ?_
    · refine yields_guard fun _ => yields_ite (yields_bind fun _ => ?_) ?_
      · exact yields_annotated
      · exact yields_annotated
    · refine yields_bind fun found => ?_
      split
      · exact yields_guard fun _ => yields_finishSimple (by simp)
      · exact yields_finishExpression hfirst

private theorem yields_importFrom : Yields (importFrom line) Node.Regular := by
  unfold importFrom
  refine yields_bind fun level => yields_bind fun named => ?_
  exact yields_ite
    (yields_bind fun _ => yields_bind fun _ => yields_bind fun _ => yields_finishSimple (by simp))
    (yields_bind fun _ => yields_bind fun _ => yields_bind fun _ => yields_finishSimple (by simp))

def AllRegular (ns : List Node) : Prop :=
  ∀ n ∈ ns, n.Regular

private theorem allRegular_nil : AllRegular [] :=
  List.forall_mem_nil _

private theorem AllRegular.cons {n : Node} {ns : List Node} (hn : n.Regular) (hns : AllRegular ns) :
    AllRegular (n :: ns) := by
  intro m hm
  rcases List.mem_cons.mp hm with rfl | hm
  · exact hn
  · exact hns m hm

private theorem AllRegular.append {ms ns : List Node} (hms : AllRegular ms) (hns : AllRegular ns) :
    AllRegular (ms ++ ns) :=
  fun n hn => (List.mem_append.mp hn).elim (hms n) (hns n)

private theorem AllRegular.reverse {ns : List Node} (hns : AllRegular ns) : AllRegular ns.reverse :=
  fun n hn => hns n (List.mem_reverse.mp hn)

variable (hr : Yields r.expression Term.Atomic)

include hr

private theorem yields_simpleStatement : Yields (simpleStatement r) Node.Regular := by
  unfold simpleStatement
  refine yields_bind fun line => yields_bind fun b => yields_ite yields_pass ?_
  refine yields_bind fun b => yields_ite (yields_finishSimple (by simp)) ?_
  refine yields_bind fun b => yields_ite (yields_finishSimple (by simp)) ?_
  refine yields_bind fun b => yields_ite (yields_bind fun _ => yields_finishSimple (by simp)) ?_
  refine yields_bind fun b => yields_ite ?_ ?_
  · refine yields_bind fun value => ?_
    exact yields_ite (yields_bind fun _ => yields_finishSimple (by simp))
      (yields_bind fun _ => yields_finishSimple (by simp))
  refine yields_bind fun b => yields_ite (yields_bind fun _ => yields_finishSimple (by simp)) ?_
  refine yields_bind fun b => yields_ite (yields_bind fun _ => yields_finishSimple (by simp)) ?_
  refine yields_bind fun b => yields_ite ?_ ?_
  · refine yields_bind fun first => yields_bind fun found => ?_
    exact yields_guard fun _ => yields_finishSimple (by simp)
  refine yields_bind fun b => yields_ite ?_ ?_
  · exact yields_bind fun _ => yields_bind fun _ => yields_finishSimple (by simp)
  refine yields_bind fun b => yields_ite (yields_bind fun _ => yields_finishSimple (by simp)) ?_
  exact yields_bind fun b => yields_ite yields_importFrom (yields_expressionStatement hr)

private theorem yields_simpleLine : Yields (simpleLine r) AllRegular := by
  unfold simpleLine
  refine (yields_simpleStatement hr).bind fun first hfirst => ?_
  have hstart : AllRegular [first] := .cons hfirst allRegular_nil
  refine Yields.bind
    (yields_loop (P := fun found : List Node × Bool => AllRegular found.1) ?_ hstart) ?_
  · rintro ⟨found, closed⟩ hfound
    refine yields_ite (yields_pure (fun _ h => nomatch h)) ?_
    refine yields_bind fun semicolon => yields_ite ?_ (yields_pure (fun _ h => nomatch h))
    refine yields_bind fun atEnd => yields_ite (yields_pure ?_) ?_
    · rintro _ ⟨⟩
      exact hfound
    · refine (yields_simpleStatement hr).bind fun n hn => yields_pure ?_
      rintro _ ⟨⟩
      exact hfound.cons hn
  · rintro ⟨found, closed⟩ hfound
    exact yields_bind fun _ => yields_pure hfound.reverse

/-! ## Blocks -/

variable {statement : Reader (List Node)} (hs : Yields statement AllRegular)

include hs

omit hr in
private theorem yields_statementsUntilDedent :
    Yields (statementsUntilDedent statement) AllRegular := by
  have hstep : ∀ found, AllRegular found → Yields (do
      if (← peek) == some .dedent then return none
      else return some ((← statement).reverse ++ found))
      fun o => ∀ b, o = some b → AllRegular b := by
    intro found hfound
    refine yields_bind fun next => yields_ite (yields_pure (fun _ h => nomatch h)) ?_
    refine hs.bind fun ns hns => yields_pure ?_
    rintro _ ⟨⟩
    exact hns.reverse.append hfound
  refine (yields_loop hstep allRegular_nil).bind fun found hfound => ?_
  exact yields_bind fun _ => yields_pure hfound.reverse

private theorem yields_block : Yields (block r statement) AllRegular :=
  yields_bind fun _ => yields_bind fun _ =>
    yields_ite (yields_bind fun _ => yields_statementsUntilDedent hs) (yields_simpleLine hr)

private theorem yields_elseBlock : Yields (elseBlock r statement) AllRegular :=
  yields_bind fun _ => yields_ite (yields_block hr hs) (yields_pure allRegular_nil)

private theorem yields_whileLoop : Yields (whileLoop r statement line) Node.Regular := by
  refine yields_bind fun condition => (yields_block hr hs).bind fun body hbody => ?_
  refine (yields_elseBlock hr hs).bind fun orelse horelse => ?_
  exact yields_finish fun span => Node.regular_withOrelse rfl hbody horelse

private theorem yields_forLoop {isAsync : Bool} :
    Yields (forLoop r statement line isAsync) Node.Regular := by
  refine yields_bind fun target => yields_bind fun _ => yields_bind fun iterable => ?_
  refine (yields_block hr hs).bind fun body hbody => ?_
  refine (yields_elseBlock hr hs).bind fun orelse horelse => ?_
  exact yields_finish fun span => Node.regular_withOrelse rfl hbody horelse

private theorem yields_arms :
    Yields (arms r statement line) fun found => ∀ arm ∈ found, AllRegular arm.2.2 := by
  refine yields_bind fun condition => (yields_block hr hs).bind fun body hbody => ?_
  refine yields_loop (fun found hfound => ?_) ?_
  · refine yields_bind fun line => yields_bind fun b => yields_ite ?_ ?_
    · refine yields_bind fun condition => (yields_block hr hs).bind fun body hbody => yields_pure ?_
      rintro _ ⟨⟩ arm harm
      rcases List.mem_cons.mp harm with rfl | harm
      · exact hbody
      · exact hfound arm harm
    · exact yields_pure (fun _ h => nomatch h)
  · intro arm harm
    rw [List.mem_singleton.mp harm]
    exact hbody

private theorem yields_conditional : Yields (conditional r statement line) Node.Regular := by
  refine (yields_arms hr hs).bind fun found hfound => ?_
  refine (yields_elseBlock hr hs).bind fun last hlast => yields_bind fun endLine => ?_
  have hnest : ∀ (arms : List (Nat × Term × List Node)) (orelse : List Node),
      (∀ arm ∈ arms, AllRegular arm.2.2) → AllRegular orelse →
      AllRegular (arms.foldl (fun orelse arm =>
        [.mk .conditional ⟨arm.1, endLine⟩ [arm.2.1] arm.2.2 orelse [] [] []]) orelse) := by
    intro arms
    induction arms with
    | nil => exact fun _ _ h => h
    | cons arm arms ih =>
      intro orelse harms horelse
      refine ih _ (fun arm' h => harms arm' (List.mem_cons_of_mem arm h)) ?_
      exact .cons (Node.regular_withOrelse rfl (harms arm (by simp)) horelse) allRegular_nil
  have hall := hnest found last hfound hlast
  dsimp only
  split
  · rename_i n hn
    replace hall : AllRegular [n] := hn ▸ hall
    exact yields_pure (hall n (by simp))
  · exact yields_failure

private theorem yields_handler : Yields (handler r statement) Node.Regular := by
  refine yields_bind fun line => yields_bind fun _ => yields_bind fun caught => ?_
  refine yields_ite (yields_bind fun name => ?_) (yields_bind fun name => ?_)
  · refine (yields_block hr hs).bind fun body hbody => ?_
    exact yields_finish fun span => Node.regular_withBody rfl hbody
  · refine (yields_block hr hs).bind fun body hbody => ?_
    exact yields_finish fun span => Node.regular_withBody rfl hbody

private theorem yields_starHandler : Yields (starHandler r statement) Node.Regular := by
  refine yields_bind fun line => yields_bind fun _ => yields_bind fun _ => yields_bind fun caught =>
    yields_bind fun name => (yields_block hr hs).bind fun body hbody => ?_
  exact yields_finish fun span => Node.regular_withBody rfl hbody

private theorem yields_withBlock {isAsync : Bool} :
    Yields (withBlock r statement line isAsync) Node.Regular := by
  refine yields_bind fun found => (yields_block hr hs).bind fun body hbody => ?_
  exact yields_finish fun span => Node.regular_withBody rfl hbody

private theorem yields_function {isAsync : Bool} {decorators : List Term} :
    Yields (function r statement line isAsync decorators) Node.Regular := by
  refine yields_bind fun name => yields_bind fun _ => yields_bind fun parameters =>
    yields_bind fun result => (yields_block hr hs).bind fun body hbody => ?_
  exact yields_finish fun span => Node.regular_withBody rfl hbody

private theorem yields_classDef {decorators : List Term} :
    Yields (classDef r statement line decorators) Node.Regular := by
  refine yields_bind fun name => yields_bind fun opening => yields_bind fun b => ?_
  have hbody : ∀ bases named : List Term, Yields (do
      let body ← block r statement
      finish line (.mk (.classDef name bases.length named.length) · (bases ++ named ++ decorators)
        body [] [] [] [])) Node.Regular :=
    fun bases named => (yields_block hr hs).bind fun body hbody =>
      yields_finish fun span => Node.regular_withBody rfl hbody
  exact yields_ite (yields_bind fun found => hbody found.1 found.2)
    (yields_bind fun found => hbody found.1 found.2)

private theorem yields_tryBlock : Yields (tryBlock r statement line) Node.Regular := by
  refine (yields_block hr hs).bind fun body hbody => yields_bind fun next => ?_
  have hhandlers : ∀ star : Bool, Yields (loop (fun found => do
      if ← nextIsWord "except" then
        return some ((← if star then starHandler r statement else handler r statement) :: found)
      else return none) []) AllRegular := by
    intro star
    refine yields_loop (fun found hfound => ?_) allRegular_nil
    refine yields_bind fun b => yields_ite ?_ (yields_pure (fun _ h => nomatch h))
    refine yields_ite ?_ ?_
    · refine (yields_starHandler hr hs).bind fun n hn => yields_pure ?_
      rintro _ ⟨⟩
      exact hfound.cons hn
    · refine (yields_handler hr hs).bind fun n hn => yields_pure ?_
      rintro _ ⟨⟩
      exact hfound.cons hn
  refine (hhandlers _).bind fun handlers hfound => ?_
  refine yields_ite_bind (yields_pure allRegular_nil) (yields_elseBlock hr hs)
    fun orelse horelse => ?_
  refine yields_bind fun b => yields_ite_bind (yields_block hr hs) (yields_pure allRegular_nil)
    fun finalbody hfinalbody => ?_
  have hfinish : ∀ star, Yields (finish line
      (.mk (.tryBlock star) · [] body orelse handlers.reverse finalbody [])) Node.Regular := by
    refine fun star => yields_finish fun span => ?_
    refine Node.regular_mk (by simp [Label.fields]) (fun field hfield => ?_) hbody horelse
      hfound.reverse hfinalbody (by simp)
    cases field <;> simp_all [Node.rawBlock, Label.fields]
  exact yields_ite (yields_bind fun _ => hfinish _) (hfinish _)

private theorem yields_matchCase : Yields (matchCase r statement) Node.Regular := by
  refine yields_bind fun line => yields_bind fun _ => yields_bind fun pattern =>
    yields_bind fun guard => (yields_block hr hs).bind fun body hbody => ?_
  exact yields_finish fun span => Node.regular_withBody rfl hbody

private theorem yields_matching {subject : Term} :
    Yields (matching r statement line subject) Node.Regular := by
  refine yields_bind fun _ => (yields_matchCase hr hs).bind fun first hfirst => ?_
  have hstart : AllRegular [first] := .cons hfirst allRegular_nil
  refine (yields_loop (fun found hfound => ?_) hstart).bind fun found hfound => ?_
  · refine yields_bind fun next => yields_ite (yields_pure (fun _ h => nomatch h)) ?_
    refine (yields_matchCase hr hs).bind fun n hn => yields_pure ?_
    rintro _ ⟨⟩
    exact hfound.cons hn
  · refine yields_bind fun _ => yields_finish fun span => ?_
    refine Node.regular_mk (by simp [Label.fields]) (fun field hfield => ?_) (by simp) (by simp)
      (by simp) (by simp) hfound.reverse
    cases field <;> simp_all [Node.rawBlock, Label.fields]

/-! ## Compound statements -/

private theorem yields_asyncStatement {decorators : List Term} :
    Yields (asyncStatement r statement line decorators) Node.Regular := by
  unfold asyncStatement
  refine yields_bind fun b => yields_ite (yields_function hr hs) ?_
  refine yields_ite yields_failure ?_
  refine yields_bind fun b => yields_ite (yields_withBlock hr hs) ?_
  exact yields_bind fun b => yields_ite (yields_forLoop hr hs) yields_failure

private theorem yields_decorated : Yields (decorated r statement) Node.Regular := by
  unfold decorated
  refine yields_bind fun decorators => yields_bind fun line => ?_
  refine yields_bind fun b => yields_ite (yields_function hr hs) ?_
  refine yields_bind fun b => yields_ite (yields_classDef hr hs) ?_
  exact yields_bind fun b => yields_ite (yields_asyncStatement hr hs) yields_failure

private theorem yields_compound (word : String) :
    Yields (compound r statement line word) fun o => ∀ n, o = some n → n.Regular := by
  have hrest : ∀ {n : Reader Node}, Yields n Node.Regular → Yields (do skip; return some (← n))
      fun o => ∀ m, o = some m → m.Regular := by
    intro n hn
    refine yields_bind fun _ => hn.bind fun m hm => yields_pure ?_
    rintro _ ⟨⟩
    exact hm
  unfold compound
  dsimp only
  split
  · exact hrest (yields_conditional hr hs)
  · exact hrest (yields_whileLoop hr hs)
  · exact hrest (yields_forLoop hr hs)
  · exact hrest (yields_tryBlock hr hs)
  · exact hrest (yields_withBlock hr hs)
  · exact hrest (yields_function hr hs)
  · exact hrest (yields_classDef hr hs)
  · exact hrest (yields_asyncStatement hr hs)
  · exact yields_pure (fun _ h => nomatch h)

private theorem yields_statementRule : Yields (statementRule r statement) AllRegular := by
  unfold statementRule
  refine yields_bind fun line => yields_bind fun next => ?_
  split
  · refine (yields_compound hr hs _).bind fun o ho => ?_
    split
    · exact yields_pure (.cons (ho _ rfl) allRegular_nil)
    · exact yields_simpleLine hr
  · exact (yields_decorated hr hs).bind fun n hn => yields_pure (.cons hn allRegular_nil)
  · refine yields_bind fun subject? => ?_
    split
    · exact (yields_matching hr hs).bind fun n hn => yields_pure (.cons hn allRegular_nil)
    · exact yields_simpleLine hr
  · exact yields_simpleLine hr

omit hs

private theorem yields_statementUpTo (depth : Nat) : Yields (statementUpTo r depth) AllRegular := by
  induction depth with
  | zero => exact yields_failure
  | succ depth ih => exact yields_statementRule hr ih

private theorem yields_file (depth : Nat) : Yields (file r depth) AllRegular := by
  unfold file
  refine (yields_loop (fun found hfound => ?_) allRegular_nil).bind fun found hfound =>
    yields_pure hfound.reverse
  refine yields_bind fun next => yields_ite (yields_pure (fun _ h => nomatch h)) ?_
  refine (yields_statementUpTo hr depth).bind fun ns hns => yields_pure ?_
  rintro _ ⟨⟩
  exact hns.reverse.append hfound

end NodeReader

theorem regular_readModule {source : String} {module : Node}
    (h : readModule source = .ok module) : module.Regular := by
  unfold readModule at h
  dsimp only at h
  split at h
  · cases h
  · split at h
    · rename_i body hbody
      cases h
      obtain ⟨tokens, -, hrun⟩ := Option.bind_eq_some_iff.mp hbody
      obtain ⟨⟨ns, c⟩, hfile, rfl⟩ := Option.map_eq_some_iff.mp hrun
      exact Node.regular_withBody rfl
        (NodeReader.yields_file (Rules.yields_expression_upTo _) _ _ ns c hfile)
    · cases h

/-- Every module that is parsed has the blocks of its labels and no others, and its empty statements
are bare. -/
theorem regular_parseLines {lines : List String} {module : Node}
    (h : parseLines lines = .ok module) : module.Regular := by
  unfold parseLines at h
  cases hread : readModule (Text.joinLines lines) with
  | error e =>
    rw [hread] at h
    cases h
  | ok m =>
    rw [hread] at h
    cases h
    exact Node.regular_filled (regular_readModule hread)

theorem shaped_parseLines {lines : List String} {module : Node}
    (h : parseLines lines = .ok module) : module.Shaped :=
  (regular_parseLines h).shaped

end GeneticRepair.Code
