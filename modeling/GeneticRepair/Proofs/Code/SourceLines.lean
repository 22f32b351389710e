import GeneticRepair.Proofs.Code.NodeReader
import GeneticRepair.Proofs.Code.Advance

/-!
# Lines of what is read

Every statement begins on the line of a token of its own, in the order of the tokens, and no block
of it is read empty that would have to be filled.
-/

namespace GeneticRepair.Code

/-! ## Lines of nodes -/

namespace Node

mutual

/-- The lines on which the nodes below a node begin, block by block in the order in which the blocks
are written: the handlers of a `try` come before its `else`. -/
def linesBelow : Node → List Nat
  | mk _ _ _ b o h f c => linesIn b ++ linesIn h ++ linesIn o ++ linesIn f ++ linesIn c

/-- The lines on which the nodes of a block begin, each followed by those of the nodes below. -/
def linesIn : List Node → List Nat
  | [] => []
  | n :: ns => n.span.line :: (linesBelow n ++ linesIn ns)

end

/-- No block of the node has to be filled for being empty. -/
structure Occupied (n : Node) : Prop where
  body_ne_nil : n.label ≠ .module → .body ∈ n.label.fields → n.rawBlock .body ≠ []
  closed : n.label.isTry → n.rawBlock .handlers ≠ [] ∨ n.rawBlock .finalbody ≠ []

/-- The nodes of a block begin on the given lines, and none of them, nor any below, has an empty
block to fill. -/
structure Listed (ns : List Node) (ls : List Nat) : Prop where
  lines_eq : linesIn ns = ls
  occupied : ∀ n ∈ ns, ∀ m, Within m n → m.Occupied

variable {n : Node} {ns ms : List Node} {ls ks : List Nat} {l : Label} {span : Span}
  {ts : List Term} {b o h f c : List Node} {lb lo lh lf lc : List Nat}

private theorem linesIn_append (ms ns : List Node) :
    linesIn (ms ++ ns) = linesIn ms ++ linesIn ns := by
  induction ms with
  | nil => rfl
  | cons m ms ih => simp only [List.cons_append, linesIn, ih, List.append_assoc]

private theorem listed_nil : Listed [] [] :=
  ⟨rfl, fun _ h => absurd h List.not_mem_nil⟩

private theorem Listed.append (hms : Listed ms ks) (hns : Listed ns ls) :
    Listed (ms ++ ns) (ks ++ ls) where
  lines_eq := by rw [linesIn_append, hms.lines_eq, hns.lines_eq]
  occupied n hn := (List.mem_append.mp hn).elim (hms.occupied n) (hns.occupied n)

private theorem listed_mk (hbody : .body ∈ l.fields → b ≠ []) (hclosed : l.isTry → h ≠ [] ∨ f ≠ [])
    (hb : Listed b lb) (hh : Listed h lh) (ho : Listed o lo) (hf : Listed f lf)
    (hc : Listed c lc) :
    Listed [mk l span ts b o h f c] (span.line :: (lb ++ lh ++ lo ++ lf ++ lc)) where
  lines_eq := by
    simp only [linesIn, linesBelow, span_mk, List.append_nil, hb.lines_eq, hh.lines_eq, ho.lines_eq,
      hf.lines_eq, hc.lines_eq]
  occupied := by
    intro n hn
    obtain rfl := List.mem_singleton.mp hn
    refine forall_within.mpr ⟨⟨fun _ => hbody, hclosed⟩, fun m hm => ?_⟩
    simp only [children, List.mem_append] at hm
    rcases hm with (((hm | hm) | hm) | hm) | hm
    · exact hb.occupied m hm
    · exact ho.occupied m hm
    · exact hh.occupied m hm
    · exact hf.occupied m hm
    · exact hc.occupied m hm

private theorem listed_simple (hl : l.fields = []) : Listed [simple l span ts] [span.line] :=
  listed_mk (fun hbody => by rw [hl] at hbody; cases hbody)
    (fun htry => by have := finalbody_mem_fields htry; rw [hl] at this; cases this)
    listed_nil listed_nil listed_nil listed_nil listed_nil

private theorem listed_withOrelse (hl : l.isTry = false) (hne : b ≠ []) (hb : Listed b lb)
    (ho : Listed o lo) : Listed [mk l span ts b o [] [] []] (span.line :: (lb ++ lo)) := by
  simpa using listed_mk (fun _ => hne) (by simp [hl]) hb listed_nil ho listed_nil listed_nil

private theorem listed_withBody (hl : l.isTry = false) (hne : b ≠ []) (hb : Listed b lb) :
    Listed [mk l span ts b [] [] [] []] (span.line :: lb) := by
  simpa using listed_withOrelse hl hne hb listed_nil

private theorem listed_try {star : Bool} (hne : b ≠ []) (hclosed : h ≠ [] ∨ f ≠ [])
    (hb : Listed b lb)
    (hh : Listed h lh) (ho : Listed o lo) (hf : Listed f lf) :
    Listed [mk (.tryBlock star) span ts b o h f []] (span.line :: (lb ++ lh ++ lo ++ lf)) := by
  simpa using listed_mk (fun _ => hne) (fun _ => hclosed) hb hh ho hf listed_nil

private theorem listed_matching (hc : Listed c lc) :
    Listed [mk .matching span ts [] [] [] [] c] (span.line :: lc) := by
  simpa using listed_mk (l := .matching) (by simp [Label.fields]) (by simp [Label.isTry]) listed_nil
    listed_nil listed_nil listed_nil hc

end Node

/-! ## Simple statements -/

open Reader

namespace NodeReader

open Node

variable {r : Rules} [r.Advance] {line own : Nat} {pre : List Nat} {l : Label} {ts : List Term}
  {c c' : Cursor}

private theorem addsOn_finish {build : Span → Node} {F : Node → List Nat → Prop}
    (h : ∀ endLine, F (build ⟨own, endLine⟩) pre) : AddsOn line (finish own build) pre F :=
  addsOn_bind fun endLine _ => addsOn_pure (h endLine)

private theorem addsOn_finishSimple (hl : l.fields = []) :
    AddsOn line (finishSimple own l ts) pre fun n _ => Listed [n] [own] :=
  addsOn_finish fun _ => listed_simple hl

private theorem addsOn_expressionStatement :
    AddsOn line (expressionStatement r) pre fun n _ => Listed [n] [line] := by
  unfold expressionStatement
  refine addsOn_here (addsOn_bind fun opening _ => addsOn_bind fun start _ => ?_)
  refine addsOn_bind fun first _ => addsOn_bind fun op? _ => ?_
  split
  · exact addsOn_guard (addsOn_bind fun value _ => addsOn_finishSimple rfl)
  · refine addsOn_bind fun colon _ => addsOn_ite ?_ ?_
    · have hannotated : ∀ line', AddsOn line' (do
          let hint ← r.expression
          let value ← if ← acceptSign "=" then pure [← r.yieldOrStarExpressions] else pure []
          finishSimple line (.annotated (isName first && !opening)) (first :: hint :: value))
          pre fun n _ => Listed [n] [line] :=
        fun _ => addsOn_bind fun hint _ => addsOn_bind fun equals _ => addsOn_ite
          (addsOn_bind fun value _ => addsOn_finishSimple rfl) (addsOn_finishSimple rfl)
      exact addsOn_guard (addsOn_ite addsOn_failure_bind (hannotated _))
    · refine addsOn_bind fun found _ => ?_
      split
      · exact addsOn_guard (addsOn_finishSimple rfl)
      · exact addsOn_finishSimple rfl

private theorem addsOn_importFrom :
    AddsOn line (importFrom own) pre fun n _ => Listed [n] [own] := by
  unfold importFrom
  refine addsOn_bind fun level _ => addsOn_bind fun named _ => addsOn_ite ?_ ?_
  · exact addsOn_bind fun source _ => addsOn_bind fun _ _ => addsOn_bind fun names _ =>
      addsOn_finishSimple rfl
  · exact addsOn_bind fun source _ => addsOn_bind fun _ _ => addsOn_bind fun names _ =>
      addsOn_finishSimple rfl

private theorem addsOn_simpleStatement :
    AddsOn line (simpleStatement r) pre fun n _ => Listed [n] [line] := by
  unfold simpleStatement
  refine addsOn_here ?_
  refine addsOn_accept_ite (fun _ => addsOn_finishSimple rfl) ?_
  refine addsOn_accept_ite (fun _ => addsOn_finishSimple rfl) ?_
  refine addsOn_accept_ite (fun _ => addsOn_finishSimple rfl) ?_
  refine addsOn_accept_ite (fun _ => addsOn_bind fun value _ => addsOn_finishSimple rfl) ?_
  refine addsOn_accept_ite (fun _ => addsOn_bind fun value _ => addsOn_ite ?_ ?_) ?_
  · exact addsOn_finishSimple rfl
  · exact addsOn_bind fun cause _ => addsOn_finishSimple rfl
  refine addsOn_accept_ite (fun _ => addsOn_bind fun names _ => addsOn_finishSimple rfl) ?_
  refine addsOn_accept_ite (fun _ => addsOn_bind fun names _ => addsOn_finishSimple rfl) ?_
  refine addsOn_accept_ite (fun _ => addsOn_bind fun first _ => addsOn_bind fun found _ =>
    addsOn_guard (addsOn_finishSimple rfl)) ?_
  refine addsOn_accept_ite (fun _ => addsOn_bind fun condition _ => addsOn_bind fun message _ =>
    addsOn_finishSimple rfl) ?_
  refine addsOn_accept_ite (fun _ => addsOn_bind fun names _ => addsOn_finishSimple rfl) ?_
  exact addsOn_accept_ite (fun _ => addsOn_importFrom) addsOn_expressionStatement

private theorem exists_of_simpleStatement {n : Node} (hchain : c.tokens.IsChain Token.Before)
    (h : simpleStatement r c = some (n, c')) :
    Listed [n] [c.line] ∧ Awaits c.tokens [c.line] c'.tokens := by
  have hadds : AddsOn c.line (simpleStatement r) [] fun n _ => Listed [n] [c.line] :=
    addsOn_simpleStatement
  obtain ⟨ls, hn, hls⟩ := hadds c n c' hchain rfl h
  refine ⟨hn, ?_⟩
  cases htokens : c.tokens with
  | nil => exact awaits_nil (htokens ▸ hls.suffix)
  | cons t tokens =>
    rw [Cursor.line_eq htokens]
    exact awaits_head (htokens ▸ hls.suffix)

/-- The statements of a block: there are some, and they begin on the given lines. -/
def Block (ns : List Node) (ls : List Nat) : Prop :=
  ns ≠ [] ∧ Listed ns ls

private theorem exists_of_nextOnLine {found : List Node × Bool} {o : Option (List Node × Bool)}
    {tokens : List Token} {ls : List Nat} (hchain : tokens.IsChain Token.Before)
    (hblock : Block found.1.reverse ls) (hls : Awaits tokens ls c.tokens)
    (h : (do
      if found.2 then return none
      else if ← acceptSign ";" then
        if ← lineEnd then return some (found.1, true)
        else return some ((← simpleStatement r) :: found.1, false)
      else return none : Reader (Option (List Node × Bool))) c = some (o, c')) :
    ∃ ls, Block (o.getD found).1.reverse ls ∧ Awaits tokens ls c'.tokens := by
  split at h
  · cases h
    exact ⟨ls, hblock, hls⟩
  · obtain ⟨semicolon, c₁, haccept, h⟩ := bind_eq_some.mp h
    cases semicolon with
    | false =>
      cases h
      exact ⟨ls, hblock, hls.of_suffix (Advances.suffix haccept)⟩
    | true =>
      obtain ⟨t, htokens, -⟩ := tokens_of_accept haccept
      have hcovers := hls t _ htokens
      obtain ⟨atEnd, c₂, hpeek, h⟩ := bind_eq_some.mp h
      have hpassed := hcovers.trans (covers_of_suffix (Advances.suffix hpeek))
      rw [List.append_nil] at hpassed
      cases atEnd with
      | true =>
        cases h
        exact ⟨ls, hblock, hpassed.awaits⟩
      | false =>
        obtain ⟨n, c₃, hn, h⟩ := bind_eq_some.mp h
        cases h
        obtain ⟨hn, hawaits⟩ := exists_of_simpleStatement (hchain.suffix hpassed.suffix) hn
        refine ⟨_, ⟨by simp, ?_⟩, hpassed.trans_awaits hawaits⟩
        rw [Option.getD_some, List.reverse_cons]
        exact hblock.2.append hn

private theorem adds_simpleLine : Adds (simpleLine r) [] Block := by
  intro line c ns c' hchain _ h
  obtain ⟨first, c₁, hfirst, h⟩ := bind_eq_some.mp h
  obtain ⟨⟨found, closed⟩, c₂, hloop, h⟩ := bind_eq_some.mp h
  obtain ⟨_, c₃, hend, h⟩ := bind_eq_some.mp h
  obtain ⟨rfl, rfl⟩ : found.reverse = ns ∧ c₃ = c' := by
    cases h
    exact ⟨rfl, rfl⟩
  obtain ⟨hfirst, hawaits⟩ := exists_of_simpleStatement hchain hfirst
  obtain ⟨ls, hblock, hls⟩ := loop_invariant
    (I := fun found c₁ => ∃ ls, Block found.1.reverse ls ∧ Awaits c.tokens ls c₁.tokens)
    (fun _ _ _ _ ⟨ls, hblock, hls⟩ => exists_of_nextOnLine hchain hblock hls)
    ⟨_, ⟨List.cons_ne_nil _ _, hfirst⟩, hawaits⟩ hloop
  obtain ⟨t, htokens, -⟩ := tokens_of_expect hend
  exact ⟨ls, hblock, hls t _ htokens⟩

/-! ## Blocks -/

variable {statement : Reader (List Node)} (hs : Adds statement [] Block)

include hs

omit [r.Advance] in
private theorem exists_of_statementsUntilDedent {ns : List Node}
    (hchain : c.tokens.IsChain Token.Before)
    (hnext : ∀ t ∈ c.tokens.head?, t.lexeme ≠ .dedent)
    (h : statementsUntilDedent statement c = some (ns, c')) :
    ∃ ls, Block ns ls ∧ Covers c.tokens ls c'.tokens := by
  obtain ⟨found, c₁, hloop, h⟩ := bind_eq_some.mp h
  obtain ⟨_, c₂, hend, h⟩ := bind_eq_some.mp h
  obtain ⟨rfl, rfl⟩ : found.reverse = ns ∧ c₂ = c' := by
    cases h
    exact ⟨rfl, rfl⟩
  have hround : ∀ found c₁ ns c₂, (∃ ls, Listed found.reverse ls ∧ Covers c.tokens ls c₁.tokens ∧
      (found = [] → c₁ = c)) →
      (do
        if (← peek) == some .dedent then return none
        else return some ((← statement).reverse ++ found) : Reader (Option (List Node))) c₁ =
          some (some ns, c₂) →
        ∃ ls, Listed ns.reverse ls ∧ Covers c.tokens ls c₂.tokens ∧ (ns = [] → c₂ = c) := by
    rintro found c₁ ns c₂ ⟨ls, hfound, hls, -⟩ hstep
    obtain ⟨next, c₂, hpeek, hstep⟩ := bind_eq_some.mp hstep
    cases hpeek
    split at hstep
    · cases hstep
    · obtain ⟨ms, c₃, hms, hstep⟩ := bind_eq_some.mp hstep
      cases hstep
      obtain ⟨ks, hblock, hks⟩ := hs _ _ ms _ (hchain.suffix hls.suffix) rfl hms
      refine ⟨ls ++ ks, ?_, hls.trans hks, fun hnil => ?_⟩
      · rw [List.reverse_append, List.reverse_reverse]
        exact hfound.append hblock.2
      · simp [hblock.1] at hnil
  obtain ⟨c₃, ⟨ls, hfound, hls, hstart⟩, hlast⟩ := exists_of_loop
    (I := fun found c₁ => ∃ ls, Listed found.reverse ls ∧ Covers c.tokens ls c₁.tokens ∧
      (found = [] → c₁ = c)) hround
    ⟨[], listed_nil, covers_of_suffix (List.suffix_refl _), fun _ => rfl⟩ hloop
  obtain ⟨next, c₄, hpeek, hlast⟩ := bind_eq_some.mp hlast
  cases hpeek
  split at hlast
  · rename_i hdedent
    cases hlast
    obtain ⟨u, hu, -⟩ := tokens_of_expect hend
    refine ⟨ls, ⟨fun hnil => ?_, hfound⟩, ?_⟩
    · have hsame := hstart (List.reverse_eq_nil_iff.mp hnil)
      rw [hsame] at hu hdedent
      refine hnext u (by rw [hu]; rfl) ?_
      simpa [hu] using hdedent
    · have hrest := hls.trans (hu ▸ covers_of_suffix (List.suffix_cons u _))
      rwa [List.append_nil] at hrest
  · obtain ⟨ms, c₅, -, hlast⟩ := bind_eq_some.mp hlast
    cases hlast

private theorem adds_block : Adds (block r statement) [] Block := by
  intro line
  refine addsOn_bind fun _ _ => addsOn_bind fun newline _ => addsOn_ite ?_ (adds_simpleLine _)
  intro c ns c' hchain _ h
  obtain ⟨_, c₁, hindent, h⟩ := bind_eq_some.mp h
  obtain ⟨t, htokens, ht⟩ := tokens_of_expect hindent
  rw [htokens, List.isChain_cons] at hchain
  obtain ⟨ls, hblock, hls⟩ := exists_of_statementsUntilDedent hs hchain.2
    (fun u hu => (hchain.1 u hu).2 ht) h
  exact ⟨ls, hblock, htokens ▸ (covers_of_suffix (List.suffix_cons t _)).trans hls⟩

private theorem adds_elseBlock : Adds (elseBlock r statement) [] Listed :=
  fun _ => addsOn_bind fun _ _ =>
    addsOn_ite ((adds_block hs _).mono fun _ _ h => h.2) (addsOn_pure listed_nil)

private theorem adds_whileLoop :
    Adds (whileLoop r statement own) [own] fun n ls => Listed [n] ls := by
  refine fun _ => addsOn_bind fun condition _ => (adds_block hs _).bind fun body lb hbody => ?_
  refine fun _ => (adds_elseBlock hs _).bind fun orelse lo horelse => fun _ => ?_
  exact addsOn_finish fun _ => listed_withOrelse rfl hbody.1 hbody.2 horelse

private theorem adds_forLoop {isAsync : Bool} :
    Adds (forLoop r statement own isAsync) [own] fun n ls => Listed [n] ls := by
  refine fun _ => addsOn_bind fun target _ => addsOn_bind fun _ _ => ?_
  refine addsOn_bind fun iterable _ => ?_
  refine (adds_block hs _).bind fun body lb hbody => ?_
  refine fun _ => (adds_elseBlock hs _).bind fun orelse lo horelse => fun _ => ?_
  exact addsOn_finish fun _ => listed_withOrelse rfl hbody.1 hbody.2 horelse

/-- Whatever block for the other case follows, the nested arms begin on the given lines. -/
def Arms (found : List (Nat × Term × List Node)) (ls : List Nat) : Prop :=
  ∀ endLine last lo, Listed last lo → Listed (found.foldl (fun orelse arm =>
    [.mk .conditional ⟨arm.1, endLine⟩ [arm.2.1] arm.2.2 orelse [] [] []]) last) (ls ++ lo)

omit [r.Advance] hs in
private theorem Arms.cons {found : List (Nat × Term × List Node)} {ls lb : List Nat}
    {condition : Term}
    {body : List Node} (hfound : Arms found ls) (hbody : Block body lb) :
    Arms ((own, condition, body) :: found) (ls ++ [own] ++ lb) := by
  intro endLine last lo hlast
  have harm : Listed [.mk .conditional ⟨own, endLine⟩ [condition] body last [] [] []]
      (own :: (lb ++ lo)) := listed_withOrelse rfl hbody.1 hbody.2 hlast
  simpa using hfound endLine _ _ harm

private theorem adds_arms : Adds (arms r statement own) [own] Arms := by
  refine fun _ => addsOn_bind fun condition _ => (adds_block hs _).bind fun body lb hbody _ => ?_
  have hnone : Arms [] [] := fun _ _ _ hlast => hlast
  refine addsOn_loop (fun found ls hfound _ => ?_) (hnone.cons hbody)
  refine addsOn_here (addsOn_accept_ite (fun _ => ?_) (addsOn_pure hfound))
  exact addsOn_bind fun condition _ => (adds_block hs _).bind fun body lb hbody _ =>
    addsOn_pure (hfound.cons hbody)

private theorem adds_conditional :
    Adds (conditional r statement own) [own] fun n ls => Listed [n] ls := by
  refine fun _ => (adds_arms hs _).trans fun found ls hfound _ => ?_
  refine (adds_elseBlock hs _).bind fun last lo hlast _ => addsOn_bind fun endLine _ => ?_
  have hnested := hfound endLine last lo hlast
  dsimp only
  split
  · rename_i n hn
    exact addsOn_pure (hn ▸ hnested)
  · exact addsOn_failure

private theorem adds_handler : Adds (handler r statement) [] fun n ls => Listed [n] ls := by
  refine fun line => addsOn_here (addsOn_expect fun _ => addsOn_bind fun caught _ => ?_)
  have hbody : ∀ name line', AddsOn line' (do
      let body ← block r statement
      finish line (.mk (.handler name) · caught body [] [] [] [])) [line]
      fun n ls => Listed [n] ls :=
    fun name line' => (adds_block hs _).bind fun body lb hbody _ =>
      addsOn_finish fun _ => listed_withBody rfl hbody.1 hbody.2
  exact addsOn_ite (addsOn_bind fun name _ => hbody name _) (addsOn_bind fun name _ => hbody name _)

private theorem adds_starHandler : Adds (starHandler r statement) [] fun n ls => Listed [n] ls := by
  refine fun line => addsOn_here (addsOn_expect fun _ => addsOn_bind fun _ _ => ?_)
  refine addsOn_bind fun caught _ => addsOn_bind fun name _ => ?_
  exact (adds_block hs _).bind fun body lb hbody _ =>
    addsOn_finish fun _ => listed_withBody rfl hbody.1 hbody.2

private theorem adds_tryBlock :
    Adds (tryBlock r statement own) [own] fun n ls => Listed [n] ls := by
  refine fun _ => (adds_block hs _).bind fun body lb hbody _ => addsOn_bind fun next _ => ?_
  have hhandlers : ∀ star : Bool, Adds (loop (fun found => do
      if ← nextIsWord "except" then
        return some ((← if star then starHandler r statement else handler r statement) :: found)
      else return none) []) [] fun found ls => Listed found.reverse ls := by
    refine fun star _ => addsOn_loop (fun found ls hfound _ => addsOn_bind fun _ _ => ?_) listed_nil
    have hcons : ∀ n lh, Listed [n] lh → Listed (n :: found).reverse (ls ++ lh) := by
      intro n lh hn
      rw [List.reverse_cons]
      exact hfound.append hn
    refine addsOn_ite (addsOn_ite ?_ ?_) (addsOn_pure hfound)
    · exact (adds_starHandler hs _).bind fun n lh hn _ => addsOn_pure (hcons n lh hn)
    · exact (adds_handler hs _).bind fun n lh hn _ => addsOn_pure (hcons n lh hn)
  refine (hhandlers _ _).bind fun handlers lh hhandlers _ => ?_
  refine addsOn_ite_bind (addsOn_pure listed_nil) (adds_elseBlock hs _)
    fun orelse lo horelse _ => addsOn_bind fun _ _ => ?_
  refine addsOn_ite_bind ((adds_block hs _).mono fun _ _ h => h.2) (addsOn_pure listed_nil)
    fun finalbody lf hfinalbody _ => ?_
  dsimp only
  split
  · exact addsOn_failure_bind
  · rename_i hclosed
    refine addsOn_finish fun _ => ?_
    refine listed_try hbody.1 ?_ hbody.2 hhandlers horelse hfinalbody
    cases handlers with
    | nil => exact .inr (by simpa using hclosed)
    | cons => exact .inl (by simp)

private theorem adds_withBlock {isAsync : Bool} :
    Adds (withBlock r statement own isAsync) [own] fun n ls => Listed [n] ls := by
  refine fun _ => addsOn_bind fun found _ => (adds_block hs _).bind fun body lb hbody _ => ?_
  exact addsOn_finish fun _ => listed_withBody rfl hbody.1 hbody.2

private theorem adds_function {isAsync : Bool} {decorators : List Term} :
    Adds (function r statement own isAsync decorators) [own] fun n ls => Listed [n] ls := by
  refine fun _ => addsOn_bind fun name _ => addsOn_bind fun _ _ => addsOn_bind fun parameters _ =>
    addsOn_bind fun result _ => (adds_block hs _).bind fun body lb hbody _ => ?_
  exact addsOn_finish fun _ => listed_withBody rfl hbody.1 hbody.2

private theorem adds_classDef {decorators : List Term} :
    Adds (classDef r statement own decorators) [own] fun n ls => Listed [n] ls := by
  have hbody : ∀ (name : String) (bases named : List Term), Adds (do
      let body ← block r statement
      finish own (.mk (.classDef name bases.length named.length) · (bases ++ named ++ decorators)
        body [] [] [] [])) [own] fun n ls => Listed [n] ls :=
    fun name bases named _ => (adds_block hs _).bind fun body lb hbody _ =>
      addsOn_finish fun _ => listed_withBody rfl hbody.1 hbody.2
  refine fun _ => addsOn_bind fun name _ => addsOn_bind fun opening _ => addsOn_bind fun _ _ => ?_
  exact addsOn_ite (addsOn_bind fun found _ => hbody name found.1 found.2 _)
    (addsOn_bind fun found _ => hbody name found.1 found.2 _)

private theorem adds_matchCase : Adds (matchCase r statement) [] fun n ls => Listed [n] ls := by
  refine fun line => addsOn_here (addsOn_expect fun _ => addsOn_bind fun pattern _ =>
    addsOn_bind fun guard _ => (adds_block hs _).bind fun body lb hbody _ => ?_)
  exact addsOn_finish fun _ => listed_withBody rfl hbody.1 hbody.2

private theorem adds_matching {subject : Term} :
    Adds (matching r statement own subject) [own] fun n ls => Listed [n] ls := by
  refine fun _ => addsOn_bind fun _ _ => (adds_matchCase hs _).bind fun first lf hfirst _ => ?_
  refine AddsOn.trans (G := fun found ls => ∃ lc, ls = own :: lc ∧ Listed found.reverse lc)
    (addsOn_loop ?_ ⟨lf, rfl, hfirst⟩) ?_
  · rintro found _ ⟨lc, rfl, hfound⟩ _
    refine addsOn_bind fun next _ => addsOn_ite (addsOn_pure ⟨lc, rfl, hfound⟩) ?_
    refine (adds_matchCase hs _).bind fun n ln hn _ => addsOn_pure ⟨lc ++ ln, rfl, ?_⟩
    rw [Option.getD_some, List.reverse_cons]
    exact hfound.append hn
  · rintro found _ ⟨lc, rfl, hfound⟩ _
    exact addsOn_bind fun _ _ => addsOn_finish fun _ => listed_matching hfound

/-! ## Compound statements -/

private theorem adds_asyncStatement {decorators : List Term} :
    Adds (asyncStatement r statement own decorators) [own] fun n ls => Listed [n] ls := by
  unfold asyncStatement
  refine fun _ => addsOn_bind fun _ _ => addsOn_ite (adds_function hs _) ?_
  refine addsOn_ite addsOn_failure (addsOn_bind fun _ _ => addsOn_ite (adds_withBlock hs _) ?_)
  exact addsOn_bind fun _ _ => addsOn_ite (adds_forLoop hs _) addsOn_failure

private theorem adds_decorated : Adds (decorated r statement) [] fun n ls => Listed [n] ls := by
  unfold decorated
  refine fun _ => addsOn_bind fun decorators line => addsOn_here ?_
  refine addsOn_accept_ite (adds_function hs) (addsOn_accept_ite (adds_classDef hs) ?_)
  exact addsOn_accept_ite (adds_asyncStatement hs) addsOn_failure

private theorem addsOn_compound (word : String) :
    AddsOn line (compound r statement line word) [] fun o ls =>
      o.elim (ls = []) fun n => Listed [n] ls := by
  have hrest : ∀ {n : Reader Node}, Adds n [line] (fun n ls => Listed [n] ls) →
      AddsOn line (do skip; return some (← n)) [] fun o ls =>
        o.elim (ls = []) fun n => Listed [n] ls :=
    fun hn => addsOn_skip fun _ => (hn _).trans fun n ls hn _ => addsOn_pure hn
  unfold compound
  dsimp only
  split
  · exact hrest (adds_conditional hs)
  · exact hrest (adds_whileLoop hs)
  · exact hrest (adds_forLoop hs)
  · exact hrest (adds_tryBlock hs)
  · exact hrest (adds_withBlock hs)
  · exact hrest (adds_function hs)
  · exact hrest (adds_classDef hs)
  · exact hrest (adds_asyncStatement hs)
  · exact addsOn_pure rfl

omit hs in
private theorem addsOn_matchHead : AddsOn line (matchHead r) [] fun _ ls => ls = [line] :=
  addsOn_expect fun _ => addsOn_bind fun _ _ => addsOn_bind fun _ _ => addsOn_bind fun _ _ =>
    addsOn_pure rfl

private theorem adds_statementRule : Adds (statementRule r statement) [] Block := by
  unfold statementRule
  refine fun line => addsOn_here (addsOn_peek fun next => ?_)
  have hsole : ∀ {n : Reader Node} {pre : List Nat}, Adds n pre (fun n ls => Listed [n] ls) →
      ∀ line', AddsOn line' (do return [← n]) pre Block :=
    fun hn _ => (hn _).trans fun n ls hn _ => addsOn_pure ⟨List.cons_ne_nil _ _, hn⟩
  split
  · refine (addsOn_compound hs _).trans fun o ls ho _ => ?_
    cases o with
    | some n => exact addsOn_pure ⟨List.cons_ne_nil _ _, ho⟩
    | none =>
      obtain rfl : ls = [] := ho
      exact adds_simpleLine _
  · exact hsole (adds_decorated hs) _
  · refine addsOn_attempt addsOn_matchHead (fun subject ls hls => ?_) (adds_simpleLine _)
    obtain rfl : ls = [line] := hls
    exact hsole (adds_matching hs)
  · exact adds_simpleLine _

omit hs

private theorem adds_statementUpTo (depth : Nat) : Adds (statementUpTo r depth) [] Block := by
  induction depth with
  | zero => exact fun _ => addsOn_failure
  | succ depth ih => exact adds_statementRule ih

theorem adds_file (depth : Nat) : Adds (file r depth) [] Listed := by
  unfold file
  refine fun _ => AddsOn.trans (G := fun found ls => Listed found.reverse ls)
    (addsOn_loop (fun found ls hfound _ => ?_) listed_nil)
    fun found ls hfound _ => addsOn_pure hfound
  refine addsOn_bind fun next _ => addsOn_ite (addsOn_pure hfound) ?_
  refine (adds_statementUpTo depth _).bind fun ns ks hns _ => addsOn_pure ?_
  rw [Option.getD_some, List.reverse_append, List.reverse_reverse]
  exact hfound.append hns.2

end NodeReader

end GeneticRepair.Code
