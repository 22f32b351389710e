import GeneticRepair.Proofs.Code.Index
import GeneticRepair.Proofs.Code.Target
import Mathlib.Data.List.Infix

/-!
# Donors and classes

The index tells classes apart by their qualified names: the names of the classes around a statement,
joined by dots. Statements of one class have one name, so that donors of the same class are always
found. The converse needs that no two classes of the module have the same name.
-/

namespace GeneticRepair.Code

/-- The place that a path leads to, if its positions count from the front. -/
def Path.place (path : Path) : Place :=
  path.map fun (field, position) => (field, position.toInt.toNat)

/-- The place of the node in whose block a statement is. -/
def Statement.holder (s : Statement) : Place :=
  Path.place s.path.dropLast

private theorem Place.place_path (p : Place) : Path.place p.path = p := by
  rw [Path.place, Place.path, List.map_map]
  exact List.map_id p

private theorem Statement.holder_eq {s : Statement} {p : Place} {step : Field × Nat}
    (h : s.path = Place.path (p ++ [step])) : s.holder = p := by
  rw [Statement.holder, h, Place.path, List.map_append, List.map_singleton, List.dropLast_concat]
  exact p.place_path

private theorem inits_concat {α : Type} (l : List α) (a : α) :
    (l ++ [a]).inits = l.inits ++ [l ++ [a]] := by
  simp [List.inits_append]

def Label.className? : Label → Option String
  | .classDef name .. => some name
  | _ => none

namespace Node

def className? (module : Node) (p : Place) : Option String :=
  (module.at? p).bind (·.label.className?)

/-- The places of the classes on the way to a place, outermost first. -/
def classesTo (module : Node) (p : Place) : List Place :=
  p.inits.filter fun q => (module.className? q).isSome

def classNames (module : Node) (p : Place) : List String :=
  (module.classesTo p).filterMap module.className?

/-- The names joined by dots, unless there are none. -/
def qualifiedName (module : Node) (p : Place) : Option String :=
  match module.classNames p with
  | [] => none
  | names => some (".".intercalate names)

/-- The place of the innermost class around a statement, if there is one. -/
def enclosingClass? (module : Node) (s : Statement) : Option Place :=
  (module.classesTo s.holder).getLast?

/-- No two class statements of the module have the same qualified name. -/
def ClassesTellApart (module : Node) : Prop :=
  ∀ s ∈ module.statements, ∀ t ∈ module.statements, s.kind = "ClassDef" → t.kind = "ClassDef" →
    module.qualifiedName (Path.place s.path) = module.qualifiedName (Path.place t.path) →
      s.path = t.path

instance (module : Node) : Decidable module.ClassesTellApart :=
  inferInstanceAs (Decidable (∀ s ∈ module.statements, ∀ t ∈ module.statements,
    s.kind = "ClassDef" → t.kind = "ClassDef" →
      module.qualifiedName (Path.place s.path) = module.qualifiedName (Path.place t.path) →
        s.path = t.path))

variable {module n m : Node} {p q : Place} {step : Field × Nat} {s target : Statement}

/-! ## Classes on the way to a place -/

private theorem classesTo_concat (module : Node) (p : Place) (step : Field × Nat) :
    module.classesTo (p ++ [step]) = module.classesTo p ++
      if (module.className? (p ++ [step])).isSome then [p ++ [step]] else [] := by
  rw [classesTo, inits_concat, List.filter_append, List.filter_singleton, cond_eq_ite, classesTo]

private theorem classesTo_of_getLast? (h : (module.classesTo p).getLast? = some q) :
    module.classesTo p = module.classesTo q ∧ (module.className? q).isSome := by
  have hclass : (module.className? q).isSome :=
    (List.mem_filter.mp (List.mem_of_getLast? h)).2
  refine ⟨?_, hclass⟩
  induction p using List.reverseRecOn with
  | nil =>
    obtain rfl := List.mem_singleton.mp (List.mem_of_mem_filter (List.mem_of_getLast? h))
    rfl
  | append_singleton p step ih =>
    rw [classesTo_concat] at h ⊢
    by_cases hstep : (module.className? (p ++ [step])).isSome
    · rw [if_pos hstep, List.getLast?_concat] at h
      obtain rfl := Option.some.inj h
      rw [if_pos hstep, classesTo_concat, if_pos hstep]
    · rw [if_neg hstep, List.append_nil] at h ⊢
      exact ih h

private theorem classNames_eq_nil_iff : module.classNames p = [] ↔ module.classesTo p = [] := by
  rw [classNames, List.filterMap_eq_nil_iff]
  constructor
  · intro h
    refine List.eq_nil_iff_forall_not_mem.mpr fun q hq => ?_
    have hclass := (List.mem_filter.mp hq).2
    rw [h q hq] at hclass
    cases hclass
  · intro h q hq
    rw [h] at hq
    cases hq

private theorem qualifiedName_eq_none_iff :
    module.qualifiedName p = none ↔ module.classesTo p = [] := by
  rw [← classNames_eq_nil_iff, qualifiedName]
  split <;> simp_all

private theorem qualifiedName_congr (h : module.classesTo p = module.classesTo q) :
    module.qualifiedName p = module.qualifiedName q := by
  rw [qualifiedName, qualifiedName, classNames, classNames, h]

private theorem qualifiedName_of_getLast?
    (h : (module.classesTo p).getLast? = (module.classesTo q).getLast?) :
    module.qualifiedName p = module.qualifiedName q := by
  cases hlast : (module.classesTo p).getLast? with
  | none =>
    rw [hlast, eq_comm] at h
    rw [qualifiedName_eq_none_iff.mpr (List.getLast?_eq_none_iff.mp hlast),
      qualifiedName_eq_none_iff.mpr (List.getLast?_eq_none_iff.mp h)]
  | some c =>
    rw [hlast, eq_comm] at h
    exact qualifiedName_congr
      ((classesTo_of_getLast? hlast).1.trans (classesTo_of_getLast? h).1.symm)

/-- Every class in a module is a statement of it. -/
theorem exists_statement_of_className? (hmodule : module.Built) (hroot : module.label = .module)
    (h : (module.className? p).isSome) :
    ∃ s ∈ module.statements, s.kind = "ClassDef" ∧ s.path = p.path := by
  obtain ⟨name, hname⟩ := Option.isSome_iff_exists.mp h
  obtain ⟨m, hm, hlabel⟩ := Option.bind_eq_some_iff.mp hname
  obtain ⟨bases, keywords, hl⟩ : ∃ bases keywords, m.label = .classDef name bases keywords := by
    cases hl : m.label <;> simp_all [Label.className?]
  rcases List.eq_nil_or_concat' p with rfl | ⟨q, step, rfl⟩
  · obtain rfl := Option.some.inj hm
    rw [hroot] at hl
    cases hl
  · obtain ⟨field, i⟩ := step
    obtain ⟨holder, hholder, hblock, hget⟩ := at?_concat.mp hm
    obtain ⟨s, ⟨hs, hlists⟩, -⟩ :=
      hmodule.existsUnique_lists hholder hblock hget (by rw [hl]; rfl)
    exact ⟨s, hs, by rw [hlists.kind_eq, hl]; rfl, hlists.path_eq⟩

private theorem ClassesTellApart.getLast?_eq (hapart : module.ClassesTellApart)
    (hmodule : module.Built)
    (hroot : module.label = .module) (h : module.qualifiedName p = module.qualifiedName q) :
    (module.classesTo p).getLast? = (module.classesTo q).getLast? := by
  by_cases hp : module.classesTo p = []
  · have hq := qualifiedName_eq_none_iff.mp (h ▸ qualifiedName_eq_none_iff.mpr hp)
    rw [hp, hq]
  have hq : module.classesTo q ≠ [] := fun hq =>
    hp (qualifiedName_eq_none_iff.mp (h.trans (qualifiedName_eq_none_iff.mpr hq)))
  have hc := List.getLast?_eq_some_getLast hp
  have hd := List.getLast?_eq_some_getLast hq
  obtain ⟨hsame, hclass⟩ := classesTo_of_getLast? hc
  obtain ⟨hsame', hclass'⟩ := classesTo_of_getLast? hd
  rw [qualifiedName_congr hsame, qualifiedName_congr hsame'] at h
  obtain ⟨s, hs, hkind, hpath⟩ := exists_statement_of_className? hmodule hroot hclass
  obtain ⟨t, ht, hkind', hpath'⟩ := exists_statement_of_className? hmodule hroot hclass'
  rw [← Place.place_path (List.getLast _ hp), ← Place.place_path (List.getLast _ hq), ← hpath,
    ← hpath'] at h
  have hsame : s.path = t.path := hapart s hs t ht hkind hkind' h
  rw [hpath, hpath'] at hsame
  rw [hc, hd, Place.path_injective hsame]

/-! ## Scopes -/

private theorem label_parseLines {lines : List String} (h : parseLines lines = .ok module) :
    module.label = .module := by
  unfold parseLines at h
  cases hread : readModule (Text.joinLines lines) with
  | error e =>
    rw [hread] at h
    cases h
  | ok n =>
    rw [hread] at h
    obtain rfl := Except.ok.inj h
    rw [filled, (header_everywhere label_fill terms_fill outermost n).1]
    unfold readModule at hread
    dsimp only at hread
    split at hread
    · cases hread
    · split at hread
      · obtain rfl := Except.ok.inj hread
        rfl
      · cases hread

private theorem intercalate_concat {names : List String} (h : names ≠ []) (name : String) :
    ".".intercalate (names ++ [name]) = ".".intercalate names ++ "." ++ name := by
  induction names with
  | nil => exact absurd rfl h
  | cons first names ih =>
    cases names with
    | nil => simp [String.intercalate_cons_cons]
    | cons second names =>
      have hrest := ih (List.cons_ne_nil _ _)
      simp only [List.cons_append, String.intercalate_cons_cons] at hrest ⊢
      rw [hrest]
      simp only [String.append_assoc]

private theorem qualifiedName_concat (h : module.at? (p ++ [step]) = some m) :
    module.qualifiedName (p ++ [step]) = scopeWithin (module.qualifiedName p) m.label := by
  have hname : module.className? (p ++ [step]) = m.label.className? := by
    rw [className?, h, Option.bind_some]
  cases hclass : m.label.className? with
  | none =>
    have hsame : module.classesTo (p ++ [step]) = module.classesTo p := by
      rw [classesTo_concat, hname, hclass]
      exact List.append_nil _
    rw [qualifiedName_congr hsame]
    cases hl : m.label <;> first | rfl | simp [hl, Label.className?] at hclass
  | some name =>
    have hnames : module.classNames (p ++ [step]) = module.classNames p ++ [name] := by
      rw [classNames, classesTo_concat, hname, hclass, if_pos (by rfl), List.filterMap_append,
        List.filterMap_cons, hname, hclass]
      rfl
    obtain ⟨bases, keywords, hl⟩ : ∃ bases keywords, m.label = .classDef name bases keywords := by
      cases hl : m.label <;> simp_all [Label.className?]
    simp only [qualifiedName, hnames, hl, scopeWithin]
    cases hbefore : module.classNames p with
    | nil => simp
    | cons first names =>
      have hjoined := intercalate_concat (List.cons_ne_nil first names) name
      simp only [List.cons_append] at hjoined ⊢
      rw [hjoined]

/-- The scope of an entry is the qualified name of the place of its block. -/
theorem scope_of_mem_statementsIn (hmodule : module.Built) (hn : module.at? p = some n)
    (h : s ∈ statementsIn p.path (module.qualifiedName p) n) :
    ∃ q step, s.path = Place.path (q ++ [step]) ∧ s.scope = module.qualifiedName q := by
  induction n using children_induction generalizing p with
  | step n ih =>
    rw [statementsIn_eq] at h
    obtain ⟨field, -, hs⟩ := List.mem_flatMap.mp h
    obtain ⟨i, m, hm, hs⟩ := mem_statementsFrom_iff.mp hs
    rw [Nat.zero_add] at hs
    have hmem := List.mem_of_getElem? hm
    have hpath : (n.blockSite p.path (module.qualifiedName p) field).step i =
        Place.path (p ++ [(field, i)]) := by
      simp [BlockSite.step, blockSite, Place.path]
    rcases hs with ⟨-, rfl⟩ | hs
    · exact ⟨p, (field, i), hpath, rfl⟩
    · have hblock : n.hasBlock field = true :=
        Framed.hasBlock_of_mem (hmodule n (within_of_at? hn)) hmem
      have hplace : module.at? (p ++ [(field, i)]) = some m :=
        at?_concat.mpr ⟨n, hn, hblock, hm⟩
      have hscope : scopeWithin (n.blockSite p.path (module.qualifiedName p) field).scope m.label =
          module.qualifiedName (p ++ [(field, i)]) := (qualifiedName_concat hplace).symm
      rw [hpath, hscope] at hs
      exact ih m (n.rawBlock_subset_children field hmem) hplace hs

private theorem scope_eq (hmodule : module.Built) (hroot : module.label = .module)
    (h : s ∈ module.statements) : s.scope = module.qualifiedName s.holder := by
  have hnone : module.qualifiedName [] = none := by
    rw [qualifiedName_eq_none_iff, classesTo]
    simp [className?, at?, hroot, Label.className?]
  obtain ⟨q, step, hpath, hscope⟩ := scope_of_mem_statementsIn (p := []) hmodule rfl
    (show s ∈ statementsIn (Place.path []) (module.qualifiedName []) module by rwa [hnone])
  rw [hscope, Statement.holder_eq hpath]

/-! ## Donors -/

/-- A simple statement of the module that is no docstring and does something. -/
def Active (module : Node) (s : Statement) : Prop :=
  ∃ p field i holder m, module.Lists s p field i holder m ∧ m.label.fields = [] ∧
    docstrings holder.label field (holder.rawBlock field) ≤ i ∧ m.isEmpty = false

private theorem donatable_iff (hmodule : module.Built) (hs : s ∈ module.statements) :
    s.donatable = true ↔ module.Active s := by
  have hlisted : ∀ {p field i holder m}, module.Lists s p field i holder m →
      (s.donatable = true ↔ (m.label.fields = [] ∧
        docstrings holder.label field (holder.rawBlock field) ≤ i) ∧ m.isEmpty = false) := by
    intro p field i holder m hlists
    rw [Statement.donatable, Bool.and_eq_true, Bool.not_eq_true', hlists.mutatable_iff,
      hlists.empty_eq]
  constructor
  · intro hdonatable
    obtain ⟨p, field, i, holder, m, hlists⟩ := hmodule.exists_lists hs
    obtain ⟨⟨hfields, hdoc⟩, hempty⟩ := (hlisted hlists).mp hdonatable
    exact ⟨p, field, i, holder, m, hlists, hfields, hdoc, hempty⟩
  · rintro ⟨p, field, i, holder, m, hlists, hfields, hdoc, hempty⟩
    exact (hlisted hlists).mpr ⟨⟨hfields, hdoc⟩, hempty⟩

private theorem mem_donors_iff (hmodule : module.Built) {crossScope : Bool} :
    s ∈ module.donors crossScope target ↔ s ∈ module.statements ∧ module.Active s ∧
      s.path ≠ target.path ∧ (crossScope = true ∨ s.scope = target.scope) := by
  rw [donors, List.mem_filter, and_congr_right_iff]
  intro hs
  rw [Bool.and_eq_true, Bool.and_eq_true, donatable_iff hmodule hs, Bool.or_eq_true, bne_iff_ne,
    beq_iff_eq, and_assoc]

/-- The donors are listed in the order of the index. With all classes allowed, they are the active
statements of the module other than the target. Otherwise they are those of them with the qualified
name of the target's class around them: none of the target's own class is missing, and there are no
others if no two classes have the same qualified name. -/
theorem donors_of_class {lines : List String} (h : parseLines lines = .ok module)
    (ht : target ∈ module.statements) :
    (∀ crossScope, (module.donors crossScope target).Sublist module.statements) ∧
      (∀ s, s ∈ module.donors true target ↔
        s ∈ module.statements ∧ module.Active s ∧ s.path ≠ target.path) ∧
      (∀ s, s ∈ module.donors false target ↔
        s ∈ module.statements ∧ module.Active s ∧ s.path ≠ target.path ∧
          module.qualifiedName s.holder = module.qualifiedName target.holder) ∧
      (∀ s ∈ module.statements, module.Active s → s.path ≠ target.path →
        module.enclosingClass? s = module.enclosingClass? target →
          s ∈ module.donors false target) ∧
      (module.ClassesTellApart → ∀ s, s ∈ module.donors false target ↔
        s ∈ module.statements ∧ module.Active s ∧ s.path ≠ target.path ∧
          module.enclosingClass? s = module.enclosingClass? target) := by
  have hbuilt := (shaped_parseLines h).built
  have hscope : ∀ s ∈ module.statements, s.scope = module.qualifiedName s.holder :=
    fun s => scope_eq hbuilt (label_parseLines h)
  have hdonors : ∀ s, s ∈ module.donors false target ↔
      s ∈ module.statements ∧ module.Active s ∧ s.path ≠ target.path ∧
        module.qualifiedName s.holder = module.qualifiedName target.holder := by
    intro s
    rw [mem_donors_iff hbuilt, and_congr_right_iff]
    intro hs
    rw [hscope s hs, hscope target ht]
    simp
  refine ⟨fun crossScope => List.filter_sublist, fun s => ?_, hdonors, ?_, fun hapart s => ?_⟩
  · rw [mem_donors_iff hbuilt]
    simp
  · intro s hs hactive hpath hclass
    exact (hdonors s).mpr ⟨hs, hactive, hpath, qualifiedName_of_getLast? hclass⟩
  · rw [hdonors]
    constructor
    · rintro ⟨hs, hactive, hpath, hname⟩
      exact ⟨hs, hactive, hpath, hapart.getLast?_eq hbuilt (label_parseLines h) hname⟩
    · rintro ⟨hs, hactive, hpath, hclass⟩
      exact ⟨hs, hactive, hpath, qualifiedName_of_getLast? hclass⟩

/-- Two classes of one name, each inside a function of its own: a statement of the one is a donor
for a statement of the other. -/
theorem donor_of_namesake :
    ∃ module target donor,
      parseLines ["def f():", "    class A:", "        x = 1", "def g():", "    class A:",
        "        y = 2"] = .ok module ∧
      target ∈ module.statements ∧ target.mutatable = true ∧
      donor ∈ module.donors false target ∧
      module.enclosingClass? target = some [(.body, 0), (.body, 0)] ∧
      module.enclosingClass? donor = some [(.body, 1), (.body, 0)] := by
  have hfacts : (parseLines ["def f():", "    class A:", "        x = 1", "def g():",
      "    class A:", "        y = 2"]).toOption.map (fun module =>
        decide (∃ target ∈ module.statements, target.mutatable = true ∧
          ∃ donor ∈ module.donors false target,
            module.enclosingClass? target = some [(.body, 0), (.body, 0)] ∧
            module.enclosingClass? donor = some [(.body, 1), (.body, 0)])) = some true := by
    decide +kernel
  obtain ⟨module, hparse, hfacts⟩ := exists_ok_of_map_eq hfacts
  obtain ⟨target, ht, hmutatable, donor, hdonor, hclass, hother⟩ := of_decide_eq_true hfacts
  exact ⟨module, target, donor, hparse, ht, hmutatable, hdonor, hclass, hother⟩

/-- In a module with two classes of different names, a method's only statement finds no donor in the
other class, nor outside of classes. -/
theorem donors_of_method :
    ∃ module target,
      parseLines ["x = 1", "class A:", "    y = 2", "    def f(self):", "        self.z = 3",
        "class B:", "    w = 4"] = .ok module ∧
      target ∈ module.statements ∧ target.path = Place.path [(.body, 1), (.body, 1), (.body, 0)] ∧
      module.ClassesTellApart ∧ (module.donors false target).map (·.span.line) = [3] ∧
      ∀ s ∈ module.donors false target,
        module.enclosingClass? s = module.enclosingClass? target := by
  have hfacts : (parseLines ["x = 1", "class A:", "    y = 2", "    def f(self):",
      "        self.z = 3", "class B:", "    w = 4"]).toOption.map (fun module =>
        decide (module.ClassesTellApart ∧ ∃ target ∈ module.statements,
          target.path = Place.path [(.body, 1), (.body, 1), (.body, 0)] ∧
          (module.donors false target).map (·.span.line) = [3])) = some true := by
    decide +kernel
  obtain ⟨module, hparse, hfacts⟩ := exists_ok_of_map_eq hfacts
  obtain ⟨hapart, target, ht, hpath, hlines⟩ := of_decide_eq_true hfacts
  obtain ⟨-, -, -, -, hclass⟩ := donors_of_class hparse ht
  exact ⟨module, target, hparse, ht, hpath, hapart, hlines, fun s hs =>
    ((hclass hapart s).mp hs).2.2.2⟩

end Node

end GeneticRepair.Code
