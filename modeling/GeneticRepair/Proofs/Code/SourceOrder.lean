import GeneticRepair.Proofs.Code.Index
import GeneticRepair.Proofs.Code.SourceLines

/-!
# Source order

The index lists the statements of a module in the order of their lines, but for one thing: the
`else` of a `try` statement is listed before its handlers, which are written before it.
-/

namespace GeneticRepair.Code

/-- The first statement is in the `else` of a node, and the second one is in one of its handlers. -/
def Statement.Crossed (s t : Statement) : Prop :=
  ∃ p i j q r, s.path = p ++ (.orelse, i) :: q ∧ t.path = p ++ (.handlers, j) :: r

/-- The order of the lines of two statements, the first of which is listed before the second. -/
def Statement.InOrder (s t : Statement) : Prop :=
  (s.Crossed t → t.span.line ≤ s.span.line) ∧ (¬ s.Crossed t → s.span.line ≤ t.span.line)

section

variable {s t : Statement} {p q r : Path} {step step' : Step}

private theorem not_crossed_of_isPrefix (h : s.path <+: t.path) : ¬ s.Crossed t := by
  rintro ⟨p, i, j, q, r, hs, ht⟩
  rw [hs, ht] at h
  have hstep := (List.prefix_append_right_inj p).mp h
  simp at hstep

private theorem crossed_iff (hs : s.path = p ++ step :: q) (ht : t.path = p ++ step' :: r)
    (hne : step ≠ step') : s.Crossed t ↔ step.1 = .orelse ∧ step'.1 = .handlers := by
  constructor
  · rintro ⟨p', i, j, q', r', hs', ht'⟩
    rw [hs] at hs'
    rw [ht] at ht'
    clear hs ht
    induction p generalizing p' with
    | nil =>
      cases p' with
      | nil =>
        obtain ⟨rfl, -⟩ := List.cons.inj hs'
        obtain ⟨rfl, -⟩ := List.cons.inj ht'
        exact ⟨rfl, rfl⟩
      | cons first p' =>
        obtain ⟨rfl, -⟩ := List.cons.inj hs'
        obtain ⟨rfl, -⟩ := List.cons.inj ht'
        exact absurd rfl hne
    | cons first p ih =>
      cases p' with
      | nil =>
        obtain ⟨rfl, -⟩ := List.cons.inj hs'
        obtain ⟨hstep, -⟩ := List.cons.inj ht'
        simp at hstep
      | cons second p' => exact ih p' (List.cons.inj hs').2 (List.cons.inj ht').2
  · rintro ⟨h, h'⟩
    exact ⟨p, step.2, step'.2, q, r, by rw [hs, ← h], by rw [ht, ← h']⟩

end

namespace Node

/-! ## Lines of the index -/

variable {n m module : Node} {ns : List Node} {path : Path} {scope : Option String}
  {site : BlockSite} {index : Nat} {s t : Statement}

private theorem mem_written {field : Field}
    (h : field ∈ [Field.body, .orelse, .handlers, .finalbody, .cases]) :
    field ∈ [Field.body, .handlers, .orelse, .finalbody, .cases] :=
  (List.Perm.cons _ (List.Perm.swap _ _ _)).subset h

/-- Of two blocks the one that is listed first is written first, unless it is the `else`. -/
theorem pairwise_listed {R : Field → Field → Prop}
    (h : [Field.body, .handlers, .orelse, .finalbody, .cases].Pairwise R) :
    [Field.body, .orelse, .handlers, .finalbody, .cases].Pairwise fun field field' =>
      field ≠ field' ∧ (field = .orelse ∧ field' = .handlers → R field' field) ∧
        (¬ (field = .orelse ∧ field' = .handlers) → R field field') := by
  simp only [List.pairwise_cons, List.mem_cons, List.not_mem_nil, or_false, forall_eq_or_imp,
    forall_eq, reduceCtorEq, ne_eq, not_false_eq_true, false_and, true_and, true_implies,
    not_true_eq_false, IsEmpty.forall_iff, implies_true] at h ⊢
  tauto

private theorem linesBelow_eq (n : Node) : linesBelow n =
    [Field.body, .handlers, .orelse, .finalbody, .cases].flatMap fun field =>
      linesIn (n.rawBlock field) := by
  obtain ⟨l, s, ts, b, o, h, f, c⟩ := n
  simp only [linesBelow, List.flatMap_cons, List.flatMap_nil, rawBlock, List.append_nil,
    List.append_assoc]

private theorem mem_linesIn {line : Nat} :
    line ∈ linesIn ns ↔ ∃ n ∈ ns, line = n.span.line ∨ line ∈ linesBelow n := by
  induction ns with
  | nil => simp [linesIn]
  | cons n ns ih => simp [linesIn, ih, or_assoc]

private theorem line_mem_linesBelow (h : s ∈ statementsIn path scope n) :
    s.span.line ∈ linesBelow n := by
  induction n using children_induction generalizing path scope with
  | step n ih =>
    rw [statementsIn_eq] at h
    obtain ⟨field, hfield, hs⟩ := List.mem_flatMap.mp h
    obtain ⟨j, m, hm, hs⟩ := mem_statementsFrom_iff.mp hs
    have hmem := List.mem_of_getElem? hm
    rw [linesBelow_eq]
    refine List.mem_flatMap.mpr ⟨field, mem_written hfield, mem_linesIn.mpr ⟨m, hmem, ?_⟩⟩
    rcases hs with ⟨-, rfl⟩ | hs
    · exact .inl rfl
    · exact .inr (ih m (n.rawBlock_subset_children field hmem) hs)

private theorem line_mem_linesIn (h : s ∈ statementsFrom site index ns) :
    s.span.line ∈ linesIn ns := by
  obtain ⟨j, m, hm, hs⟩ := mem_statementsFrom_iff.mp h
  refine mem_linesIn.mpr ⟨m, List.mem_of_getElem? hm, ?_⟩
  rcases hs with ⟨-, rfl⟩ | hs
  · exact .inl rfl
  · exact .inr (line_mem_linesBelow hs)

private theorem inOrder_of_not_crossed (hcrossed : ¬ s.Crossed t) (h : s.span.line ≤ t.span.line) :
    s.InOrder t :=
  ⟨fun hc => absurd hc hcrossed, fun _ => h⟩

private theorem linesIn_eq (ns : List Node) :
    linesIn ns = ns.flatMap fun n => n.span.line :: linesBelow n := by
  induction ns with
  | nil => rfl
  | cons n ns ih => simp only [linesIn, List.flatMap_cons, List.cons_append, ih]

private theorem line_mem_of_visit (h : n.label.isStatement = true ∧ s = site.entry index n ∨
    s ∈ statementsIn (site.step index) scope n) : s.span.line ∈ n.span.line :: linesBelow n := by
  rcases h with ⟨-, rfl⟩ | h
  · exact List.mem_cons_self
  · exact List.mem_cons_of_mem _ (line_mem_linesBelow h)

private theorem pairwise_inOrder_of_block (hns : (linesIn ns).Pairwise (· ≤ ·))
    (h : ∀ n ∈ ns, ∀ path scope, (linesBelow n).Pairwise (· ≤ ·) →
      (statementsIn path scope n).Pairwise Statement.InOrder) :
    (statementsFrom site index ns).Pairwise Statement.InOrder := by
  rw [linesIn_eq, List.pairwise_flatMap] at hns
  obtain ⟨hnodes, hlater⟩ := hns
  refine pairwise_statementsFrom (fun n hn path scope => ?_) (fun n hn i scope s hs => ?_)
    (hlater.imp fun {n m} hle i j s t hij hs ht => ?_)
  · exact h n hn path scope (List.pairwise_cons.mp (hnodes n hn)).2
  · obtain ⟨step, rest, heq⟩ := exists_path_of_mem_statementsIn hs
    refine inOrder_of_not_crossed (not_crossed_of_isPrefix ?_) ?_
    · rw [heq]
      exact List.prefix_append _ _
    · exact (List.pairwise_cons.mp (hnodes n hn)).1 _ (line_mem_linesBelow hs)
  · obtain ⟨rest, heq⟩ := exists_path_of_visit hs
    obtain ⟨rest', heq'⟩ := exists_path_of_visit ht
    refine inOrder_of_not_crossed ?_ (hle _ (line_mem_of_visit hs) _ (line_mem_of_visit ht))
    rw [crossed_iff heq heq' (by simp; omega)]
    rintro ⟨h₁, h₂⟩
    rw [h₁] at h₂
    cases h₂

private theorem pairwise_inOrder (n : Node) (path : Path) (scope : Option String)
    (hn : (linesBelow n).Pairwise (· ≤ ·)) :
    (statementsIn path scope n).Pairwise Statement.InOrder := by
  induction n using children_induction generalizing path scope with
  | step n ih =>
    rw [linesBelow_eq, List.pairwise_flatMap] at hn
    obtain ⟨hblocks, hwritten⟩ := hn
    rw [statementsIn_eq, List.pairwise_flatMap]
    refine ⟨fun field hfield => pairwise_inOrder_of_block (hblocks field (mem_written hfield))
      fun m hm path scope => ih m (n.rawBlock_subset_children field hm) path scope, ?_⟩
    refine (pairwise_listed hwritten).imp
      fun {field field'} ⟨hne, hcrossed, hstraight⟩ s hs t ht => ?_
    obtain ⟨j, rest, heq⟩ := exists_path_of_mem_statementsFrom hs
    obtain ⟨j', rest', heq'⟩ := exists_path_of_mem_statementsFrom ht
    have hiff := crossed_iff heq heq' (by simp [blockSite, hne])
    exact ⟨fun hc => hcrossed (hiff.mp hc) _ (line_mem_linesIn ht) _ (line_mem_linesIn hs),
      fun hc => hstraight (mt hiff.mpr hc) _ (line_mem_linesIn hs) _ (line_mem_linesIn ht)⟩

/-! ## Filling -/

/-- Lines that stay in order when they are in order, with none that was not there before. -/
structure Keeps (ls ls' : List Nat) : Prop where
  subset : ls' ⊆ ls
  pairwise : ls.Pairwise (· ≤ ·) → ls'.Pairwise (· ≤ ·)

private theorem Keeps.refl (ls : List Nat) : Keeps ls ls :=
  ⟨List.Subset.refl ls, id⟩

private theorem Keeps.trans {ls ls' ls'' : List Nat} (h : Keeps ls ls') (h' : Keeps ls' ls'') :
    Keeps ls ls'' :=
  ⟨fun _ hl => h.subset (h'.subset hl), fun hls => h'.pairwise (h.pairwise hls)⟩

private theorem Keeps.append {ls ls' ks ks' : List Nat} (h : Keeps ls ls') (h' : Keeps ks ks') :
    Keeps (ls ++ ks) (ls' ++ ks') where
  subset l hl := by
    rw [List.mem_append] at hl ⊢
    exact hl.imp (fun hl => h.subset hl) fun hl => h'.subset hl
  pairwise hsorted := by
    obtain ⟨hls, hks, hcross⟩ := List.pairwise_append.mp hsorted
    exact List.pairwise_append.mpr ⟨h.pairwise hls, h'.pairwise hks,
      fun x hx y hy => hcross x (h.subset hx) y (h'.subset hy)⟩

private theorem span_everywhere_fill (outer : Span) (n : Node) :
    (everywhere fill outer n).span = n.span := by
  cases n
  rw [everywhere_mk]
  rfl

private theorem built_everywhere_fill (hn : n.Built) (outer : Span) :
    (everywhere fill outer n).Built :=
  forall_everywhere (fun _ => framed_simple) (fun _ _ => Framed.fill)
    (fun below _ _ _ _ _ _ _ _ hP => Framed.map below hP) (fun _ _ _ => mem_children_fill) hn outer

private theorem linesBelow_of_isText (hn : n.Built) (htext : n.isText = true) :
    linesBelow n = [] := by
  have hnil : ∀ field, n.rawBlock field = [] := fun field => by
    refine (built_iff.mp hn).1 field ?_
    rw [(isText_iff.mp htext).1]
    simp [Label.fields]
  rw [linesBelow_eq]
  simp [hnil, linesIn]

private theorem keeps_fillBody {l : Label} {span : Span} {block : List Node}
    (hne : l ≠ .module → .body ∈ l.fields → block ≠ []) (hblock : ∀ n ∈ block, n.Built) :
    Keeps (linesIn block) (linesIn (fillBody l span block)) := by
  cases hlast : block.getLast? with
  | none =>
    obtain rfl := List.getLast?_eq_none_iff.mp hlast
    rw [fillBody, if_pos]
    · exact .refl _
    · by_cases hmodule : l = .module
      · exact .inl hmodule
      · exact .inr fun hbody => hne hmodule hbody rfl
  | some last =>
    rcases fillBody_of_getLast? l span hlast with heq | ⟨-, hcode, heq⟩
    · rw [heq]
      exact .refl _
    · obtain ⟨d, rfl, -, -, htext⟩ :=
        eq_singleton_of_docstrings_eq hcode (by rintro rfl; cases hlast)
      obtain rfl : d = last := by simpa using hlast
      have hbelow := linesBelow_of_isText (hblock d List.mem_cons_self) htext
      rw [heq]
      simp only [List.singleton_append, linesIn, linesBelow, placeholder, simple, span_mk, hbelow,
        List.append_nil, List.nil_append]
      exact ⟨by simp, by simp⟩

/-- Of a module without empty blocks, filling keeps the lines in order. -/
theorem keeps_everywhere_fill (n : Node) (hocc : ∀ m, Within m n → m.Occupied) (hn : n.Built)
    (outer : Span) : Keeps (linesBelow n) (linesBelow (everywhere fill outer n)) := by
  induction n using children_induction generalizing outer with
  | step n ih =>
    obtain ⟨hself, hchildren⟩ := forall_within.mp hocc
    have hblock : ∀ (ns : List Node) (inner : Span), ns ⊆ n.children →
        Keeps (linesIn ns) (linesIn (ns.map (everywhere fill inner))) := by
      intro ns inner hns
      induction ns with
      | nil => exact .refl _
      | cons m ns ihns =>
        obtain ⟨hm, hns⟩ := List.cons_subset.mp hns
        have hbelow := ih m hm (hchildren m hm) (hn.of_mem hm) inner
        have hself : Keeps [m.span.line] [(everywhere fill inner m).span.line] := by
          rw [span_everywhere_fill]
          exact .refl _
        exact hself.append (hbelow.append (ihns hns))
    obtain ⟨l, s, ts, b, o, h, f, c⟩ := n
    have hfinal : ∀ below : Node → Node,
        fillFinal l (spanWithin outer l s) (h.map below) (f.map below) = f.map below := by
      intro below
      rw [fillFinal, if_neg]
      rintro ⟨htry, hh, hf⟩
      rcases hself.closed htry with hne | hne
      · exact hne (List.map_eq_nil_iff.mp hh)
      · exact hne (List.map_eq_nil_iff.mp hf)
    have hbuilt : ∀ m ∈ b.map (everywhere fill (spanWithin outer l s)), m.Built := by
      intro m hm
      obtain ⟨k, hk, rfl⟩ := List.mem_map.mp hm
      exact built_everywhere_fill (hn.of_mem (by simp [children, hk])) _
    have hne : l ≠ .module → .body ∈ l.fields →
        b.map (everywhere fill (spanWithin outer l s)) ≠ [] :=
      fun hmodule hfield hnil => hself.body_ne_nil hmodule hfield (List.map_eq_nil_iff.mp hnil)
    have hraw := (mk l s ts b o h f c).rawBlock_subset_children
    have hbody : Keeps (linesIn b) (linesIn (fillBody l (spanWithin outer l s)
        (b.map (everywhere fill (spanWithin outer l s))))) :=
      (hblock b _ (hraw .body)).trans (keeps_fillBody hne hbuilt)
    rw [everywhere_mk]
    simp only [fill, hfinal, linesBelow]
    exact (((hbody.append (hblock h _ (hraw .handlers))).append (hblock o _ (hraw .orelse))).append
      (hblock f _ (hraw .finalbody))).append (hblock c _ (hraw .cases))

end Node

private theorem exists_of_readModule {source : String} {module : Node}
    (h : readModule source = .ok module) :
    ∃ body ls, module = .mk .module ⟨1, 1⟩ [] body [] [] [] [] ∧ Node.Listed body ls ∧
      ls.Pairwise (· ≤ ·) := by
  unfold readModule at h
  dsimp only at h
  split at h
  · cases h
  · split at h
    · rename_i body hbody
      cases h
      obtain ⟨tokens, htokens, hrun⟩ := Option.bind_eq_some_iff.mp hbody
      obtain ⟨⟨ns, c⟩, hfile, rfl⟩ := Option.map_eq_some_iff.mp hrun
      have hchain := isChain_of_tokenize htokens
      obtain ⟨ls, hlisted, taken, rfl, hls⟩ := NodeReader.adds_file _ _ ⟨tokens, 1, _⟩ ns c hchain
        rfl hfile
      refine ⟨ns, ls, rfl, hlisted, ?_⟩
      have hlines : ((taken ++ c.tokens).map Token.line).Pairwise (· ≤ ·) :=
        List.pairwise_map.mpr (List.isChain_iff_pairwise.mp (hchain.imp fun _ _ h => h.1))
      rw [List.map_append] at hlines
      exact (List.pairwise_append.mp hlines).1.sublist hls
    · cases h

private theorem pairwise_linesBelow_of_parseLines {lines : List String} {module : Node}
    (h : parseLines lines = .ok module) : (Node.linesBelow module).Pairwise (· ≤ ·) := by
  unfold parseLines at h
  cases hread : readModule (Text.joinLines lines) with
  | error e =>
    rw [hread] at h
    cases h
  | ok n =>
    rw [hread] at h
    cases h
    have hbuilt := (regular_readModule hread).shaped.built
    obtain ⟨body, ls, rfl, hlisted, hls⟩ := exists_of_readModule hread
    have hocc : ∀ m, Node.Within m (.mk .module ⟨1, 1⟩ [] body [] [] [] []) → m.Occupied := by
      refine Node.forall_within.mpr ⟨⟨fun hmodule => absurd rfl hmodule, nofun⟩, fun m hm => ?_⟩
      exact hlisted.occupied m (by simpa [Node.children] using hm)
    refine (Node.keeps_everywhere_fill _ hocc hbuilt Node.outermost).pairwise ?_
    simpa [Node.linesBelow, Node.linesIn, hlisted.lines_eq] using hls

namespace Node

variable {module : Node}

private theorem exists_of_through {n : Node} {place : Place} {p q : Path} {step : Step}
    (hn : module.at? place = some n) (hpath : place.path = p ++ step :: q) :
    ∃ place' m, p = Place.path place' ∧ module.at? place' = some m ∧ m.rawBlock step.1 ≠ [] := by
  obtain ⟨place', rest, rfl, hp, hrest⟩ := List.map_eq_append_iff.mp hpath
  obtain ⟨⟨field, i⟩, rest', rfl, rfl, -⟩ := List.map_eq_cons_iff.mp hrest
  rw [at?_append] at hn
  obtain ⟨m, hm, hn⟩ := Option.bind_eq_some_iff.mp hn
  obtain ⟨-, child, hchild, -⟩ := at?_cons.mp hn
  refine ⟨place', m, hp.symm, hm, fun hnil => ?_⟩
  rw [show m.rawBlock field = [] from hnil] at hchild
  cases hchild

private theorem exists_of_crossed {s t : Statement} (hmodule : module.Built)
    (hs : s ∈ module.statements)
    (ht : t ∈ module.statements) (hcrossed : s.Crossed t) :
    ∃ m, Within m module ∧ m.rawBlock .orelse ≠ [] ∧ m.rawBlock .handlers ≠ [] := by
  obtain ⟨p, i, j, q, r, hpath, hpath'⟩ := hcrossed
  obtain ⟨_, _, _, _, _, hlists⟩ := hmodule.exists_lists hs
  obtain ⟨_, _, _, _, _, hlists'⟩ := hmodule.exists_lists ht
  obtain ⟨place, m, hplace, hm, horelse⟩ :=
    exists_of_through hlists.at_append_eq (hlists.path_eq.symm.trans hpath)
  obtain ⟨place', m', hplace', hm', hhandlers⟩ :=
    exists_of_through hlists'.at_append_eq (hlists'.path_eq.symm.trans hpath')
  obtain rfl := Place.path_injective (hplace.symm.trans hplace')
  obtain rfl := Option.some.inj (hm.symm.trans hm')
  exact ⟨m, within_of_at? hm, horelse, hhandlers⟩

/-- The entries of the index are in the order of their lines, but those of the `else` of a `try`
statement come before those of its handlers, which stand above. If no `try` statement has both, the
lines never decrease. -/
theorem statements_in_order {lines : List String} (h : parseLines lines = .ok module) :
    module.statements.Pairwise (fun s t => (s.Crossed t → t.span.line ≤ s.span.line) ∧
      (¬ s.Crossed t → s.span.line ≤ t.span.line)) ∧
      ((∀ m, Within m module → m.rawBlock .orelse = [] ∨ m.rawBlock .handlers = []) →
        (module.statements.map (·.span.line)).Pairwise (· ≤ ·)) := by
  have horder : module.statements.Pairwise Statement.InOrder :=
    pairwise_inOrder module [] none (pairwise_linesBelow_of_parseLines h)
  refine ⟨horder, fun hapart => List.pairwise_map.mpr (horder.imp_of_mem ?_)⟩
  intro s t hs ht hst
  refine hst.2 fun hcrossed => ?_
  obtain ⟨m, hm, horelse, hhandlers⟩ :=
    exists_of_crossed (shaped_parseLines h).built hs ht hcrossed
  exact (hapart m hm).elim horelse hhandlers

/-- The statement of the `else` is listed before that of the handler above it. -/
theorem statements_out_of_order :
    ∃ module, parseLines ["try:", "    f()", "except E:", "    pass", "else:", "    g()"] =
        .ok module ∧
      module.statements.map (·.span.line) = [1, 2, 6, 4] ∧
      ¬ (module.statements.map (·.span.line)).Pairwise (· ≤ ·) := by
  have hlines : (parseLines
      ["try:", "    f()", "except E:", "    pass", "else:", "    g()"]).toOption.map
        (fun module => module.statements.map (·.span.line)) = some [1, 2, 6, 4] := by
    decide +kernel
  obtain ⟨module, hparse, hlines⟩ := exists_ok_of_map_eq hlines
  exact ⟨module, hparse, hlines, by rw [hlines]; decide⟩

/-- The placeholder of a function stands where its docstring does, and only the handler on line 6 is
listed behind what is written below it. -/
theorem statements_of_function_and_try :
    ∃ module, parseLines ["def f():", "    'text'", "try:", "    f()", "except E:", "    pass",
        "else:", "    g()", "h()"] = .ok module ∧
      module.statements.map (·.span.line) = [1, 2, 2, 3, 4, 8, 6, 9] ∧
      module.statements.Pairwise fun s t => (s.Crossed t → t.span.line ≤ s.span.line) ∧
        (¬ s.Crossed t → s.span.line ≤ t.span.line) := by
  have hlines : (parseLines ["def f():", "    'text'", "try:", "    f()", "except E:", "    pass",
      "else:", "    g()", "h()"]).toOption.map
        (fun module => module.statements.map (·.span.line)) = some [1, 2, 2, 3, 4, 8, 6, 9] := by
    decide +kernel
  obtain ⟨module, hparse, hlines⟩ := exists_ok_of_map_eq hlines
  exact ⟨module, hparse, hlines, (statements_in_order hparse).1⟩

end Node

end GeneticRepair.Code
