import GeneticRepair.Proofs.Candidate.Mutation
import GeneticRepair.Proofs.Candidate.Question
import GeneticRepair.Proofs.Coverage.Localization

/-!
# Classic mutation

A mutant of the classic operator differs from its candidate by one edit of the first simple statement
on a suspicious line. The candidate itself comes back for four reasons, each of which suffices: it
does not compile, it does not parse, no simple statement begins on a suspicious line, or the edit
that was drawn needs a donor and the target has none.
-/

namespace GeneticRepair

open GeneticRepair.Code

variable {R T G : Type} [Scalar R] [RandomSource G]

/-! ## What is drawn -/

namespace Lab

variable {α : Type} {s s' : Lab T G} {a : α}

omit [RandomSource G] in
theorem returns_draw {act : StateM G α} :
    Returns (draw act : Action T G α) s a s' ↔
      ∃ g, act.run s.random = (a, g) ∧ s' = { s with random := g } := by
  rw [draw, returns_modifyGet]
  constructor
  · intro h
    obtain ⟨rfl, rfl⟩ := Prod.mk.inj h
    exact ⟨_, rfl, rfl⟩
  · rintro ⟨g, hact, rfl⟩
    have hact' : act s.random = (a, g) := hact
    simp [hact']

omit [RandomSource G] in
private theorem returns_sample {act : ExceptT SamplingError (StateM G) α} :
    Returns (sample act : Action T G α) s a s' ↔
      ∃ g, Returns act s.random a g ∧ s' = { s with random := g } := by
  rw [sample, returns_bind]
  constructor
  · rintro ⟨r, t, hdraw, h⟩
    obtain ⟨g, hact, rfl⟩ := returns_draw.mp hdraw
    cases r with
    | error e => exact absurd h not_returns_throw
    | ok b =>
      obtain ⟨rfl, rfl⟩ := returns_pure.mp h
      exact ⟨g, hact, rfl⟩
  · rintro ⟨g, hact, rfl⟩
    exact ⟨.ok a, _, returns_draw.mpr ⟨g, hact, rfl⟩, returns_pure.mpr ⟨rfl, rfl⟩⟩

end Lab

/-! ## Targets and edits -/

namespace Code.Node

variable {module : Node} {l : Localization R}

/-- The suspicious lines on which simple statements begin. -/
def targets (module : Node) (l : Localization R) : Localization R :=
  l.restrictToLines (module.mutatableLines.map fun (line, _) => Int.ofNat line)

omit [Scalar R] in
private theorem mem_lines_targets {line : Int} : line ∈ (module.targets l).lines ↔
    line ∈ l.lines ∧ ∃ n ∈ module.mutatableLines.map Prod.fst, Int.ofNat n = line := by
  simp only [targets, Localization.restrictToLines, Localization.filter, Localization.lines,
    List.mem_map, List.mem_filter, List.contains_iff_mem, Prod.exists]
  constructor
  · rintro ⟨k, score, ⟨hmem, n, s, hn, rfl⟩, rfl⟩
    exact ⟨⟨_, score, hmem, rfl⟩, n, ⟨n, s, hn, rfl⟩, rfl⟩
  · rintro ⟨⟨_, score, hmem, rfl⟩, _, ⟨n, s, hn, rfl⟩, rfl⟩
    exact ⟨_, score, ⟨hmem, n, s, hn, rfl⟩, rfl⟩

private theorem isEmpty_targets_iff (hmodule : module.Shaped) (hl : l.Pruned) :
    (module.targets l).scores.isEmpty = true ↔
      ∀ s ∈ module.statements, module.Simple s → ¬ l.Suspects (Int.ofNat s.span.line) := by
  have hnil : (module.targets l).scores.isEmpty = true ↔ (module.targets l).lines = [] := by
    simp [Localization.lines]
  rw [hnil, List.eq_nil_iff_forall_not_mem]
  constructor
  · intro hnone s hs hsimple hsuspects
    have hline := (mem_lines_iff hmodule).mpr ⟨s, hs, hsimple, rfl⟩
    exact hnone _ (mem_lines_targets.mpr ⟨hl.suspects_iff.mp hsuspects, _, hline, rfl⟩)
  · intro hnone line hline
    obtain ⟨hmem, n, hn, rfl⟩ := mem_lines_targets.mp hline
    obtain ⟨s, hs, hsimple, rfl⟩ := (mem_lines_iff hmodule).mp hn
    exact hnone s hs hsimple (hl.suspects_iff.mpr hmem)

/-- One legal edit of a module at a target. -/
inductive EditedAt (module : Node) (crossScope : Bool) (target : Statement) : Node → Prop
  | inserted {donor : Statement} {m : Node} (donor_mem : donor ∈ module.donors crossScope target)
      (made : module.insert target donor = .ok m) : EditedAt module crossScope target m
  | deleted {m : Node} (needless : ¬ module.SolePlaceholder target)
      (made : module.delete target = .ok m) : EditedAt module crossScope target m
  | swapped {donor : Statement} {m : Node} (donor_mem : donor ∈ module.donors crossScope target)
      (made : module.swap target donor = .ok m) : EditedAt module crossScope target m

end Code.Node

namespace Candidate

variable {c d : Candidate R} {module m : Node} {l : Localization R} {crossScope : Bool}
  {target : Statement} {e : Edit} {s s' : Lab T G}

omit [Scalar R] in
theorem returns_oneOf {α : Type} {x y : α} {xs : List α} (h : Returns (oneOf x xs) s y s') :
    y ∈ x :: xs ∧ s'.memos = s.memos := by
  obtain ⟨g, hact, rfl⟩ := Lab.returns_draw.mp h
  have hmem := Random.choose_mem x xs s.random
  rw [hact] at hmem
  exact ⟨hmem, rfl⟩

private theorem returns_sampleLine (hmodule : module.Shaped) (hl : l.Pruned) {line : Int}
    (hsome : ¬ (module.targets l).scores.isEmpty = true)
    (h : Returns (Lab.sample (module.targets l).sample) s line s') :
    s'.memos = s.memos ∧ ∃ target, module.FirstSimple line.toNat target ∧
      module.mutatableLines.lookup line.toNat = some target ∧
      l.Suspects (Int.ofNat line.toNat) ∧ line = Int.ofNat line.toNat := by
  obtain ⟨g, hsample, rfl⟩ := Lab.returns_sample.mp h
  have hmem : line ∈ (module.targets l).lines := by
    rw [Localization.sample] at hsample
    cases hscores : (module.targets l).scores with
    | nil => exact absurd (by simp [hscores]) hsome
    | cons entry entries =>
      rw [hscores] at hsample
      rw [Localization.lines, hscores]
      exact ((Random.ends_weightedChoice entry entries).of_returns trivial hsample).1
  obtain ⟨hline, n, hn, rfl⟩ := Node.mem_lines_targets.mp hmem
  have hlookup : (module.mutatableLines.lookup n).isSome = true := by
    obtain ⟨entry, hentry, rfl⟩ := List.mem_map.mp hn
    exact List.lookup_isSome_iff.mpr ⟨entry, hentry, by simp⟩
  obtain ⟨target, htarget⟩ := Option.isSome_iff_exists.mp hlookup
  exact ⟨rfl, target, Node.firstSimple_of_lookup hmodule htarget, htarget,
    hl.suspects_iff.mpr hline, rfl⟩

/-- A suspicious line is drawn, and an edit of the first simple statement on it. -/
inductive Draws (module : Node) (l : Localization R) (s : Lab T G) :
    Statement → Edit → Lab T G → Prop
  | intro {line : Nat} {target : Statement} {e : Edit} {t s' : Lab T G}
      (sampled : Returns (Lab.sample (module.targets l).sample) s (Int.ofNat line) t)
      (suspected : l.Suspects (Int.ofNat line)) (first : module.FirstSimple line target)
      (drawn : Returns (oneOf .insert (editsAt target)) t e s') : Draws module l s target e s'

omit [Scalar R] in
private theorem returns_edit (hneedless : e = .delete → ¬ module.SolePlaceholder target)
    {r : Option Node}
    (h : Returns (edit module crossScope target e) s r s') :
    r = none ∧ s' = s ∧ e ≠ .delete ∧ module.donors crossScope target = [] ∨
      s'.memos = s.memos ∧ ∃ m, r = some m ∧ module.EditedAt crossScope target m := by
  unfold edit at h
  split at h
  · obtain ⟨m, t, hmade, hm⟩ := returns_bind.mp h
    obtain ⟨hdelete, rfl⟩ := Lab.returns_orFail.mp hmade
    obtain ⟨rfl, rfl⟩ := returns_pure.mp hm
    exact .inr ⟨rfl, m, rfl, .deleted (hneedless rfl) hdelete⟩
  · rename_i hdelete
    split at h
    · rename_i hdonors
      obtain ⟨rfl, rfl⟩ := returns_pure.mp h
      exact .inl ⟨rfl, rfl, hdelete, hdonors⟩
    · rename_i donor donors hdonors
      obtain ⟨chosen, t, hchosen, hrest⟩ := returns_bind.mp h
      obtain ⟨hmem, hmemos⟩ := returns_oneOf hchosen
      rw [← hdonors] at hmem
      split at hrest
      · obtain ⟨m, u, hmade, hm⟩ := returns_bind.mp hrest
        obtain ⟨hinsert, rfl⟩ := Lab.returns_orFail.mp hmade
        obtain ⟨rfl, rfl⟩ := returns_pure.mp hm
        exact .inr ⟨hmemos, m, rfl, .inserted hmem hinsert⟩
      · obtain ⟨m, u, hmade, hm⟩ := returns_bind.mp hrest
        obtain ⟨hswap, rfl⟩ := Lab.returns_orFail.mp hmade
        obtain ⟨rfl, rfl⟩ := returns_pure.mp hm
        exact .inr ⟨hmemos, m, rfl, .swapped hmem hswap⟩

omit [Scalar R] in
private theorem returns_edit_of_nil (he : e ≠ .delete)
    (hdonors : module.donors crossScope target = []) :
    Returns (edit module crossScope target e) s none s := by
  cases e with
  | delete => exact absurd rfl he
  | insert => simp [edit, hdonors]
  | swap => simp [edit, hdonors]

private theorem mutateStatement_eq (c : Candidate R) (module : Node) (l : Localization R) :
    (c.mutateStatement module l : Action T G (Candidate R)) = (do
      if (module.targets l).scores.isEmpty then
        return c
      else
        let line ← Lab.sample (module.targets l).sample
        match module.mutatableLines.lookup line.toNat with
        | none => return c
        | some target =>
          let e ← oneOf Edit.insert (editsAt target)
          match ← edit module c.strategies.mutator.crossScope target e with
          | none => return c
          | some mutant => c.derive (← printed mutant)) :=
  rfl

private theorem returns_mutateStatement (hmodule : module.Shaped) (hl : l.Pruned)
    (h : Returns (c.mutateStatement module l) s d s') :
    (d = c ∧ s' = s ∧ (module.targets l).scores.isEmpty = true) ∨
      ∃ target e t, Draws module l s target e t ∧
        (d = c ∧ s' = t ∧ e ≠ .delete ∧
            module.donors c.strategies.mutator.crossScope target = [] ∨
          c.Kin d ∧ d.memo = s.memos.size ∧
            ∃ m, module.EditedAt c.strategies.mutator.crossScope target m ∧
              m.toLines = .ok d.lines) := by
  rw [mutateStatement_eq] at h
  by_cases hempty : (module.targets l).scores.isEmpty = true
  · rw [if_pos hempty] at h
    obtain ⟨rfl, rfl⟩ := returns_pure.mp h
    exact .inl ⟨rfl, rfl, hempty⟩
  · rw [if_neg hempty] at h
    obtain ⟨line, t, hline, hrest⟩ := returns_bind.mp h
    obtain ⟨hmemos, target, hfirst, hlookup, hsuspects, hcast⟩ :=
      returns_sampleLine hmodule hl hempty hline
    rw [hlookup] at hrest
    rw [hcast] at hline
    obtain ⟨e, u, he, hedited⟩ := returns_bind.mp hrest
    obtain ⟨hedit, hmemos'⟩ := returns_oneOf he
    refine .inr ⟨target, e, u, .intro hline hsuspects hfirst he, ?_⟩
    have hneedless : e = .delete → ¬ module.SolePlaceholder target := by
      rintro rfl hsole
      have hmem := Node.mem_statements_of_lookup hlookup
      simp [editsAt, (Node.placeholder_iff hmodule hmem).mpr hsole] at hedit
    obtain ⟨r, v, hr, hderived⟩ := returns_bind.mp hedited
    rcases returns_edit hneedless hr with ⟨rfl, rfl, hdelete, hdonors⟩ | ⟨hmemos'', m, rfl, hm⟩
    · obtain ⟨rfl, rfl⟩ := returns_pure.mp hderived
      exact .inl ⟨rfl, rfl, hdelete, hdonors⟩
    · obtain ⟨lines, w, hprinted, hnew⟩ := returns_bind.mp hderived
      obtain ⟨hlines, rfl⟩ := Lab.returns_orFail.mp hprinted
      obtain ⟨i, x, hi, hd⟩ := returns_bind.mp hnew
      obtain ⟨rfl, rfl⟩ := returns_pure.mp hd
      obtain ⟨rfl, -⟩ := Prod.mk.inj (returns_modifyGet.mp hi)
      exact .inr ⟨⟨rfl, rfl, rfl⟩, by simp [hmemos'', hmemos', hmemos], m, hm, hlines⟩

private theorem returns_mutateStatement_of_nil (hmodule : module.Shaped) (hl : l.Pruned)
    {t : Lab T G}
    (hdraws : Draws module l s target e t) (he : e ≠ .delete)
    (hdonors : module.donors c.strategies.mutator.crossScope target = []) :
    Returns (c.mutateStatement module l) s c t := by
  obtain @⟨line, _, _, u, _, hsampled, hsuspected, hfirst, hdrawn⟩ := hdraws
  have hlookup := Node.lookup_of_firstSimple hmodule hfirst
  have hmem := Node.mem_statements_of_lookup hlookup
  have hempty : ¬ (module.targets l).scores.isEmpty = true := by
    intro hempty
    have hnone := (Node.isEmpty_targets_iff hmodule hl).mp hempty target hmem hfirst.simple
    rw [hfirst.line_eq] at hnone
    exact hnone hsuspected
  rw [mutateStatement_eq, if_neg hempty]
  refine returns_bind.mpr ⟨_, u, hsampled, ?_⟩
  rw [show (Int.ofNat line).toNat = line from rfl, hlookup]
  refine returns_bind.mpr ⟨e, t, hdrawn, ?_⟩
  exact returns_bind.mpr ⟨none, t, returns_edit_of_nil he hdonors, returns_pure.mpr ⟨rfl, rfl⟩⟩

/-! ## Mutants and spared candidates -/

variable [Toolchain T] {lab lab' t : Lab T G}

/-- The candidate compiles and parses, and its suspicious lines have been found. -/
structure Finds (c : Candidate R) (lab : Lab T G) (module : Node) (l : Localization R)
    (t : Lab T G) : Prop where
  parsed : c.parsed? = some module
  localized : ∃ s, Returns c.isCompilable lab true s ∧ Returns c.suspiciousness s l t

/-- Why a candidate is left as it is. -/
inductive Spared (c : Candidate R) (crossScope : Bool) (lab lab' : Lab T G) : Prop
  | uncompilable (compiled : Returns c.isCompilable lab false lab')
  | unparsable (compiled : Returns c.isCompilable lab true lab') (parsed : c.parsed? = none)
  | unsuspected {module : Node} {l : Localization R} (found : c.Finds lab module l lab')
      (nowhere : ∀ s ∈ module.statements, module.Simple s → ¬ l.Suspects (Int.ofNat s.span.line))
  | donorless {module : Node} {l : Localization R} {t : Lab T G} {target : Statement} {e : Edit}
      (found : c.Finds lab module l t) (drawn : Draws module l t target e lab')
      (undeleted : e ≠ .delete) (pool : module.donors crossScope target = [])

/-- The second candidate differs from the first one by an edit of the first simple statement on a
suspicious line. -/
structure EditedOnce (c d : Candidate R) (crossScope : Bool) (lab : Lab T G) : Prop
    extends Kin c d where
  edit : ∃ module l t line target m, c.Finds lab module l t ∧ l.Suspects (Int.ofNat line) ∧
    module.FirstSimple line target ∧ module.EditedAt crossScope target m ∧
    m.toLines = .ok d.lines

omit [RandomSource G] in
private theorem pruned_suspiciousness (h : Returns c.suspiciousness s l s') : l.Pruned := by
  obtain ⟨r, t, -, h⟩ := returns_bind.mp h
  cases r with
  | none =>
    obtain ⟨rfl, -⟩ := returns_pure.mp h
    exact Localization.pruned_empty
  | some result =>
    obtain ⟨spectra, u, -, hscored⟩ := returns_bind.mp h
    exact Metric.pruned_localize (Lab.returns_orFail.mp hscored).1

omit [Scalar R] [RandomSource G] in
private theorem turnsKeep_memo (c : Candidate R) :
    c.TurnsKeep (fun s : Lab T G => c.memo < s.memos.size) fun _ => True where
  memo s hs := ⟨s.memos[c.memo], Array.getElem?_eq_getElem hs, fun _ _ => trivial⟩
  turn s m m' t' hs _ _ := by simpa using hs

omit [RandomSource G] in
private theorem Finds.memo_lt (h : c.Finds lab module l t) (hmemo : c.memo < lab.memos.size) :
    c.memo < t.memos.size := by
  obtain ⟨s, hcompiled, hlocalized⟩ := h.localized
  have hs := (c.turnsKeep_memo.ends_isCompilable.of_returns hmemo hcompiled).2
  exact (c.turnsKeep_memo.ends_suspiciousness.of_returns hs hlocalized).2

omit [RandomSource G] in
private theorem Finds.pruned (h : c.Finds lab module l t) : l.Pruned := by
  obtain ⟨s, -, hlocalized⟩ := h.localized
  exact pruned_suspiciousness hlocalized

private theorem returns_mutateParsed (hmutator : c.strategies.mutator = .classic crossScope) :
    Returns (c.mutateParsed module) s d s' ↔
      ∃ l t, Returns c.suspiciousness s l t ∧ Returns (c.mutateStatement module l) t d s' := by
  simp only [mutateParsed, returns_bind, hmutator]

/-- A mutation finds out whether the candidate compiles, parses it, and looks for suspicious
lines. -/
theorem returns_mutate_iff (hmutator : c.strategies.mutator = .classic crossScope) :
    Returns c.mutate lab d lab' ↔
      (Returns c.isCompilable lab false lab' ∧ d = c) ∨
      (Returns c.isCompilable lab true lab' ∧ c.parsed? = none ∧ d = c) ∨
      ∃ module l t, c.Finds lab module l t ∧ Returns (c.mutateStatement module l) t d lab' := by
  rw [mutate, returns_bind]
  constructor
  · rintro ⟨compiles, s, hcompiled, h⟩
    cases compiles with
    | false =>
      obtain ⟨rfl, rfl⟩ := returns_pure.mp h
      exact .inl ⟨hcompiled, rfl⟩
    | true =>
      rw [if_pos rfl] at h
      cases hparsed : c.parsed? with
      | none =>
        rw [hparsed] at h
        obtain ⟨rfl, rfl⟩ := returns_pure.mp h
        exact .inr (.inl ⟨hcompiled, rfl, rfl⟩)
      | some module =>
        rw [hparsed] at h
        obtain ⟨l, t, hlocalized, hmutated⟩ := (returns_mutateParsed hmutator).mp h
        exact .inr (.inr ⟨module, l, t, ⟨hparsed, s, hcompiled, hlocalized⟩, hmutated⟩)
  · rintro (⟨hcompiled, rfl⟩ | ⟨hcompiled, hparsed, rfl⟩ | ⟨module, l, t, hfound, hmutated⟩)
    · exact ⟨false, lab', hcompiled, returns_pure.mpr ⟨rfl, rfl⟩⟩
    · refine ⟨true, lab', hcompiled, ?_⟩
      rw [if_pos rfl, hparsed]
      exact returns_pure.mpr ⟨rfl, rfl⟩
    · obtain ⟨s, hcompiled, hlocalized⟩ := hfound.localized
      refine ⟨true, s, hcompiled, ?_⟩
      rw [if_pos rfl, hfound.parsed]
      exact (returns_mutateParsed hmutator).mpr ⟨l, t, hlocalized, hmutated⟩

private theorem spared_or_editedOnce (hmutator : c.strategies.mutator = .classic crossScope)
    (hmemo : c.memo < lab.memos.size) (h : Returns c.mutate lab d lab') :
    (d = c ∧ c.Spared crossScope lab lab') ∨ (d ≠ c ∧ c.EditedOnce d crossScope lab) := by
  have hcross : c.strategies.mutator.crossScope = crossScope := by rw [hmutator, Mutator.crossScope]
  rcases (returns_mutate_iff hmutator).mp h with
    ⟨hcompiled, rfl⟩ | ⟨hcompiled, hparsed, rfl⟩ | ⟨module, l, t, hfound, hmutated⟩
  · exact .inl ⟨rfl, .uncompilable hcompiled⟩
  · exact .inl ⟨rfl, .unparsable hcompiled hparsed⟩
  · have hshaped := shaped_of_parsed? hfound.parsed
    rcases returns_mutateStatement hshaped hfound.pruned hmutated with
      ⟨rfl, rfl, hempty⟩ | ⟨target, e, u, hdraws, hrest⟩
    · have hnowhere := (Node.isEmpty_targets_iff hshaped hfound.pruned).mp hempty
      exact .inl ⟨rfl, .unsuspected hfound hnowhere⟩
    · rw [hcross] at hrest
      rcases hrest with ⟨rfl, rfl, hdelete, hdonors⟩ | ⟨hkin, hfresh, m, hedited, hlines⟩
      · exact .inl ⟨rfl, .donorless hfound hdraws hdelete hdonors⟩
      · obtain ⟨-, hsuspected, hfirst, -⟩ := hdraws
        refine .inr ⟨?_, hkin, module, l, t, _, target, m, hfound, hsuspected, hfirst, hedited,
          hlines⟩
        rintro rfl
        exact absurd (hfound.memo_lt hmemo) (by rw [hfresh]; exact lt_irrefl _)

private theorem returns_of_spared (hmutator : c.strategies.mutator = .classic crossScope)
    (h : c.Spared crossScope lab lab') : Returns c.mutate lab c lab' := by
  rw [returns_mutate_iff hmutator]
  cases h with
  | uncompilable hcompiled => exact .inl ⟨hcompiled, rfl⟩
  | unparsable hcompiled hparsed => exact .inr (.inl ⟨hcompiled, hparsed, rfl⟩)
  | unsuspected hfound hnowhere =>
    have hshaped := shaped_of_parsed? hfound.parsed
    have hempty := (Node.isEmpty_targets_iff hshaped hfound.pruned).mpr hnowhere
    refine .inr (.inr ⟨_, _, _, hfound, ?_⟩)
    rw [mutateStatement_eq, if_pos hempty]
    exact returns_pure.mpr ⟨rfl, rfl⟩
  | donorless hfound hdrawn hdelete hpool =>
    have hshaped := shaped_of_parsed? hfound.parsed
    have hcross : c.strategies.mutator.crossScope = crossScope := by
      rw [hmutator, Mutator.crossScope]
    rw [← hcross] at hpool
    exact .inr (.inr ⟨_, _, _, hfound,
      returns_mutateStatement_of_nil hshaped hfound.pruned hdrawn hdelete hpool⟩)

/-- A mutation of a candidate, whose memo the laboratory keeps, gives the candidate itself for one of
four reasons, or else another one with one legal edit at a suspicious line. Each of the reasons makes
it give the candidate itself. -/
theorem mutate_classic (hmutator : c.strategies.mutator = .classic crossScope)
    (hmemo : c.memo < lab.memos.size) :
    (∀ d lab', Returns c.mutate lab d lab' →
      (d = c ∧ c.Spared crossScope lab lab') ∨ (d ≠ c ∧ c.EditedOnce d crossScope lab)) ∧
    ∀ lab', c.Spared crossScope lab lab' → Returns c.mutate lab c lab' :=
  ⟨fun _ _ h => spared_or_editedOnce hmutator hmemo h, fun _ h => returns_of_spared hmutator h⟩

omit [Scalar R] [RandomSource G] [Toolchain T] in
/-- Of two candidates one is edited, and the other one does not parse. -/
theorem mutate_classic_of_assignment :
    (∃ d lab', Returns (Unprintable.candidate "y = 1").mutate Unprintable.lab d lab' ∧
      (Unprintable.candidate "y = 1").EditedOnce d true Unprintable.lab) ∧
    ∃ lab', (Unprintable.candidate "y = (").Spared true Unprintable.lab lab' ∧
      Returns (Unprintable.candidate "y = (").mutate Unprintable.lab
        (Unprintable.candidate "y = (") lab' := by
  constructor
  · have hmemo : ((Unprintable.candidate "y = 1").mutate.run.run Unprintable.lab).1.toOption.any
        (·.memo == 1) = true := by
      decide +kernel
    rcases hrun : (Unprintable.candidate "y = 1").mutate.run.run Unprintable.lab with ⟨_ | d, lab'⟩
    · rw [hrun] at hmemo
      cases hmemo
    · rw [hrun] at hmemo
      have hclassic := mutate_classic (c := Unprintable.candidate "y = 1") rfl
        (by decide : 0 < Unprintable.lab.memos.size)
      refine ⟨d, lab', hrun, ?_⟩
      rcases hclassic.1 d lab' hrun with ⟨heq, -⟩ | ⟨-, hedited⟩
      · rw [heq] at hmemo
        cases hmemo
      · exact hedited
  · have hparsed : (Unprintable.candidate "y = (").parsed?.isNone = true := by
      decide +kernel
    have hcompiled : ((Unprintable.candidate "y = (").isCompilable.run.run
        Unprintable.lab).1.toOption = some true := by
      decide +kernel
    rcases hrun : (Unprintable.candidate "y = (").isCompilable.run.run Unprintable.lab with
      ⟨_ | b, lab'⟩
    · rw [hrun] at hcompiled
      cases hcompiled
    · rw [hrun] at hcompiled
      obtain rfl := Option.some.inj hcompiled
      have hspared : (Unprintable.candidate "y = (").Spared true Unprintable.lab lab' :=
        .unparsable hrun (Option.isNone_iff_eq_none.mp hparsed)
      have hclassic := mutate_classic (c := Unprintable.candidate "y = (") rfl
        (by decide : 0 < Unprintable.lab.memos.size)
      exact ⟨lab', hspared, hclassic.2 lab' hspared⟩

end Candidate

end GeneticRepair
