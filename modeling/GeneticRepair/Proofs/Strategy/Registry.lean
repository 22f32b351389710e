import GeneticRepair.Proofs.Collection.Entries
import GeneticRepair.Strategy.Registry
import Mathlib.Data.List.Induction

/-!
# Registered names

The registry of a base is the map of the concrete classes that are derived from it, under their
names, and of a name that comes twice the last class counts. A class is refused just if it is
concrete and has no name, or has the name of a class with another label. So the classes of one name
share a label, and an abstract class is never refused, whatever its name.
-/

namespace GeneticRepair

open Entries (AtLast)

/-! ## Classes -/

namespace StrategyClass

variable {c parent : StrategyClass} {label : String} {members : List (String × Member)}

/-- The class asks for no method. -/
def Complete (c : StrategyClass) : Prop :=
  ∀ method, c.member? method ≠ some .abstractMethod

private theorem isConcrete_iff : c.isConcrete = true ↔ c.Complete := by
  rw [isConcrete, List.all_eq_true]
  constructor
  · intro hall method hasked
    obtain ⟨before, after, hmembers, -⟩ := List.lookup_eq_some_iff.mp hasked
    have hmem : (method, Member.abstractMethod) ∈ c.members := by simp [hmembers]
    simpa [hasked, Member.isAbstract] using hall _ hmem
  · rintro hcomplete ⟨name, -⟩ -
    change (!(c.member? name).any Member.isAbstract) = true
    cases hfound : c.member? name with
    | none => rfl
    | some found =>
      cases found with
      | value | method => rfl
      | abstractMethod => exact absurd hfound (hcomplete name)

private theorem member?_derive (name : String) : (parent.derive label members).member? name =
    (members.lookup name).or (parent.member? name) :=
  List.lookup_append

private theorem complete_derive_iff : (parent.derive label members).Complete ↔
    ∀ method, members.lookup method ≠ some .abstractMethod ∧
      (parent.member? method = some .abstractMethod → (members.lookup method).isSome) := by
  refine forall_congr' fun method => ?_
  rw [member?_derive]
  cases members.lookup method <;> simp

/-- The class has its own members, and under all other names those of its parent. So it is concrete
if it asks for no method itself, and has something under each name for which its parent asks. -/
structure Inherits (c parent : StrategyClass) (label : String) (members : List (String × Member)) :
    Prop where
  label_eq : c.label = label
  member?_eq : ∀ name, c.member? name = (members.lookup name).or (parent.member? name)
  complete_iff : c.Complete ↔ ∀ method, members.lookup method ≠ some .abstractMethod ∧
    (parent.member? method = some .abstractMethod → (members.lookup method).isSome)

private theorem inherits_derive (parent : StrategyClass) (label : String)
    (members : List (String × Member)) :
    (parent.derive label members).Inherits parent label members where
  label_eq := rfl
  member?_eq := member?_derive
  complete_iff := complete_derive_iff

end StrategyClass

namespace Registry

variable {source : NameSource} {classes : List StrategyClass} {r : Registry} {c : StrategyClass}
  {name : String}

/-! ## Concrete classes and their names -/

/-- The concrete classes under their names, in the order of their definitions. -/
def registrations (source : NameSource) (classes : List StrategyClass) :
    List (String × StrategyClass) :=
  classes.filterMap fun c => if c.isConcrete then (c.name? source).map (·, c) else none

private theorem mem_registrations : (name, c) ∈ registrations source classes ↔
    c ∈ classes ∧ c.Complete ∧ c.name? source = some name := by
  simp only [registrations, List.mem_filterMap, Option.ite_none_right_eq_some,
    StrategyClass.isConcrete_iff, Option.map_eq_some_iff, Prod.mk.injEq]
  constructor
  · rintro ⟨c, hmem, hcomplete, name, hname, rfl, rfl⟩
    exact ⟨hmem, hcomplete, hname⟩
  · rintro ⟨hmem, hcomplete, hname⟩
    exact ⟨c, hmem, hcomplete, name, hname, rfl, rfl⟩

private theorem registrations_concat_of_abstract (h : ¬ c.Complete) :
    registrations source (classes ++ [c]) = registrations source classes := by
  rw [← StrategyClass.isConcrete_iff] at h
  simp [registrations, h]

private theorem registrations_concat_of_name (h : c.Complete) (hname : c.name? source = some name) :
    registrations source (classes ++ [c]) = registrations source classes ++ [(name, c)] := by
  rw [← StrategyClass.isConcrete_iff] at h
  simp [registrations, h, hname]

/-! ## One registration -/

/-- Why a concrete class is refused: it has no name, or the name of a class with another label. -/
inductive Refuses (source : NameSource) (classes : List StrategyClass) (c : StrategyClass) :
    RegistrationError → Prop where
  | noName (hcomplete : c.Complete) (hname : c.name? source = none) :
      Refuses source classes c .noName
  | nameTaken {name : String} {known : StrategyClass} (hcomplete : c.Complete)
      (hname : c.name? source = some name) (hmem : (name, known) ∈ registrations source classes)
      (hlabel : known.label ≠ c.label) : Refuses source classes c (.nameTaken name)

private theorem register_of_abstract (h : ¬ c.Complete) : r.register c = .ok r := by
  have hconcrete : c.isConcrete = false := by simpa [← StrategyClass.isConcrete_iff] using h
  simp only [register, hconcrete]
  rfl

private theorem register_of_name_none (h : c.Complete) (hnone : c.name? r.source = none) :
    r.register c = .error .noName := by
  simp only [register, StrategyClass.isConcrete_iff.mpr h, hnone]
  rfl

private theorem register_of_name (h : c.Complete) (hname : c.name? r.source = some name) :
    r.register c = if (r.lookup? name).any (·.label != c.label) then .error (.nameTaken name)
      else .ok { r with entries := Entries.set name c r.entries } := by
  simp only [register, StrategyClass.isConcrete_iff.mpr h, hname]
  rfl

/-- The registry is the map of the concrete classes, and those of one name share a label. -/
structure Records (source : NameSource) (classes : List StrategyClass) (r : Registry) : Prop where
  source_eq : r.source = source
  entries_eq : r.entries = Entries.ofList (registrations source classes)
  label_eq : ∀ {name c c'}, (name, c) ∈ registrations source classes →
    (name, c') ∈ registrations source classes → c.label = c'.label

private theorem records_empty (source : NameSource) : Records source [] (empty source) where
  source_eq := rfl
  entries_eq := rfl
  label_eq := by simp [registrations]

namespace Records

private theorem lookup?_eq_some_iff (h : Records source classes r) : r.lookup? name = some c ↔
    AtLast (registrations source classes) name c := by
  rw [lookup?, h.entries_eq, Entries.lookup_eq_some_iff_mem (Entries.nodup_keys_ofList _),
    Entries.mem_ofList]

private theorem exists_lookup? (h : Records source classes r) {known : StrategyClass}
    (hmem : (name, known) ∈ registrations source classes) :
    ∃ last, r.lookup? name = some last ∧ last.label = known.label := by
  obtain ⟨last, hlast⟩ := Entries.exists_atLast (List.mem_map_of_mem hmem)
  exact ⟨last, h.lookup?_eq_some_iff.mpr hlast, h.label_eq hlast.mem hmem⟩

private theorem register_of_refuses (h : Records source classes r) {e : RegistrationError}
    (hrefuses : Refuses source classes c e) : r.register c = .error e := by
  cases hrefuses with
  | noName hcomplete hname => exact register_of_name_none hcomplete (h.source_eq ▸ hname)
  | nameTaken hcomplete hname hmem hlabel =>
    obtain ⟨last, hlast, hsame⟩ := h.exists_lookup? hmem
    rw [register_of_name hcomplete (h.source_eq ▸ hname), hlast]
    simp [hsame, hlabel]

private theorem concat_abstract (h : Records source classes r) (hcomplete : ¬ c.Complete) :
    Records source (classes ++ [c]) r where
  source_eq := h.source_eq
  entries_eq := by rw [registrations_concat_of_abstract hcomplete, h.entries_eq]
  label_eq := by
    rw [registrations_concat_of_abstract hcomplete]
    exact h.label_eq

private theorem concat_named (h : Records source classes r) (hcomplete : c.Complete)
    (hname : c.name? source = some name)
    (hshared : ∀ known, (name, known) ∈ registrations source classes → known.label = c.label) :
    Records source (classes ++ [c]) { r with entries := Entries.set name c r.entries } where
  source_eq := h.source_eq
  entries_eq := by
    rw [registrations_concat_of_name hcomplete hname, Entries.ofList_concat, h.entries_eq]
  label_eq := by
    rw [registrations_concat_of_name hcomplete hname]
    intro other c₁ c₂ h₁ h₂
    simp only [List.mem_append, List.mem_singleton, Prod.mk.injEq] at h₁ h₂
    rcases h₁ with h₁ | ⟨rfl, rfl⟩ <;> rcases h₂ with h₂ | ⟨hname', rfl⟩
    · exact h.label_eq h₁ h₂
    · exact hshared c₁ (hname' ▸ h₁)
    · exact (hshared c₂ h₂).symm
    · rfl

private theorem register_of_not_refuses (h : Records source classes r)
    (hrefuses : ∀ e, ¬ Refuses source classes c e) :
    ∃ r', r.register c = .ok r' ∧ Records source (classes ++ [c]) r' := by
  by_cases hcomplete : c.Complete
  · obtain ⟨name, hname⟩ : ∃ name, c.name? source = some name :=
      Option.ne_none_iff_exists'.mp fun hnone => hrefuses _ (.noName hcomplete hnone)
    have hshared : ∀ known, (name, known) ∈ registrations source classes →
        known.label = c.label := by
      intro known hmem
      by_contra hlabel
      exact hrefuses _ (.nameTaken hcomplete hname hmem hlabel)
    have hfree : (r.lookup? name).any (·.label != c.label) = false := by
      cases hheld : r.lookup? name with
      | none => rfl
      | some known => simpa using hshared known (h.lookup?_eq_some_iff.mp hheld).mem
    refine ⟨_, ?_, h.concat_named hcomplete hname hshared⟩
    rw [register_of_name hcomplete (h.source_eq ▸ hname), hfree]
    rfl
  · exact ⟨r, register_of_abstract hcomplete, h.concat_abstract hcomplete⟩

private theorem register_eq_error_iff (h : Records source classes r) {e : RegistrationError} :
    r.register c = .error e ↔ Refuses source classes c e := by
  refine ⟨fun herror => ?_, h.register_of_refuses⟩
  obtain ⟨e', hrefuses⟩ : ∃ e', Refuses source classes c e' := by
    by_contra hnone
    obtain ⟨r', hr', -⟩ := h.register_of_not_refuses (not_exists.mp hnone)
    rw [herror] at hr'
    cases hr'
  have heq : Except.error e = Except.error e' := herror.symm.trans (h.register_of_refuses hrefuses)
  cases heq
  exact hrefuses

/-! ## Names -/

private theorem mem_names_iff (h : Records source classes r) :
    name ∈ r.names ↔ ∃ c ∈ classes, c.Complete ∧ c.name? source = some name := by
  simp only [← mem_registrations]
  rw [names, List.mem_mergeSort, h.entries_eq]
  constructor
  · intro hmem
    obtain ⟨⟨_, c⟩, hc, rfl⟩ := List.mem_map.mp hmem
    exact ⟨c, (Entries.mem_ofList.mp hc).mem⟩
  · rintro ⟨c, hmem⟩
    obtain ⟨last, hlast⟩ := Entries.exists_atLast (List.mem_map_of_mem hmem)
    exact List.mem_map_of_mem (Entries.mem_ofList.mpr hlast)

private theorem pairwise_names (h : Records source classes r) : r.names.Pairwise (· < ·) := by
  have hsorted : r.names.Pairwise (· ≤ ·) := by
    refine (List.pairwise_mergeSort ?_ ?_ _).imp of_decide_eq_true
    · intro a b c hab hbc
      exact decide_eq_true (String.le_trans (of_decide_eq_true hab) (of_decide_eq_true hbc))
    · intro a b
      simpa using String.le_total a b
  have hnodup : r.names.Nodup := by
    rw [names, (List.mergeSort_perm _ _).nodup_iff, h.entries_eq]
    exact Entries.nodup_keys_ofList _
  exact hsorted.imp₂
    (fun a b hle hne => String.not_le.mp fun hge => hne (String.le_antisymm hle hge)) hnodup

private theorem lookup?_eq_none_iff (h : Records source classes r) :
    r.lookup? name = none ↔ name ∉ r.names := by
  simp only [h.mem_names_iff, ← mem_registrations, Option.eq_none_iff_forall_ne_some]
  constructor
  · rintro hnone ⟨c, hmem⟩
    obtain ⟨last, hlast, -⟩ := h.exists_lookup? hmem
    exact hnone last hlast
  · intro hnone c hlookup
    exact hnone ⟨c, (h.lookup?_eq_some_iff.mp hlookup).mem⟩

end Records

end Registry

/-! ## Definitions, one after another -/

namespace Hierarchy

open Registry (registrations Refuses Records)

def attempt (h : Hierarchy) (d : ClassDefinition) : Hierarchy :=
  match h.define d with
  | .ok h' => h'
  | .error _ => h

/-- The classes and their registry after definitions, failed ones among them. -/
def after (source : NameSource) (base : StrategyClass) (definitions : List ClassDefinition) :
    Hierarchy :=
  definitions.foldl attempt (.new source base)

variable {source : NameSource} {base : StrategyClass} {definitions : List ClassDefinition}
  {h : Hierarchy} {d : ClassDefinition} {c : StrategyClass}

private theorem after_concat : after source base (definitions ++ [d]) =
    (after source base definitions).attempt d := by
  rw [after, List.foldl_append]
  rfl

private theorem define_of_derived? (hderived : h.derived? d = some c) : h.define d =
    match h.registry.register c with
    | .ok registry => .ok { h with classes := h.classes ++ [c], registry }
    | .error e => .error (.refused e) := by
  simp only [define, hderived]
  cases h.registry.register c <;> rfl

private theorem define_of_derived?_none (hnone : h.derived? d = none) :
    h.define d = .error .noParent := by
  simp only [define, hnone]
  rfl

private theorem exists_parent_of_derived? (hderived : h.derived? d = some c) :
    ∃ parent, h.parent? d = some parent ∧ c.Inherits parent d.label d.members := by
  obtain ⟨parent, hparent, rfl⟩ := Option.map_eq_some_iff.mp hderived
  exact ⟨parent, hparent, StrategyClass.inherits_derive parent d.label d.members⟩

private theorem attempt_of_error {e : DefinitionError} (herror : h.define d = .error e) :
    h.attempt d = h := by
  rw [attempt, herror]

private theorem attempt_of_not_refuses (hrecords : Records source h.classes h.registry)
    (hderived : h.derived? d = some c) (hrefuses : ∀ e, ¬ Refuses source h.classes c e) :
    ∃ registry, h.attempt d = { h with classes := h.classes ++ [c], registry } ∧
      Records source (h.classes ++ [c]) registry := by
  obtain ⟨registry, hregister, hrecords'⟩ := hrecords.register_of_not_refuses hrefuses
  refine ⟨registry, ?_, hrecords'⟩
  rw [attempt, define_of_derived? hderived, hregister]

private theorem define_refused_iff (hrecords : Records source h.classes h.registry)
    {e : RegistrationError} : h.define d = .error (.refused e) ↔
      ∃ c, h.derived? d = some c ∧ Refuses source h.classes c e := by
  cases hderived : h.derived? d with
  | none => simp [define_of_derived?_none hderived]
  | some c =>
    rw [define_of_derived? hderived]
    simp only [Option.some.injEq, exists_eq_left', ← hrecords.register_eq_error_iff]
    cases h.registry.register c <;> simp

private theorem records_attempt (hrecords : Records source h.classes h.registry) :
    Records source (h.attempt d).classes (h.attempt d).registry := by
  cases hderived : h.derived? d with
  | none => rwa [attempt_of_error (define_of_derived?_none hderived)]
  | some c =>
    by_cases hrefused : ∃ e, Refuses source h.classes c e
    · obtain ⟨e, hrefuses⟩ := hrefused
      rwa [attempt_of_error ((define_refused_iff hrecords).mpr ⟨c, hderived, hrefuses⟩)]
    · obtain ⟨registry, hattempt, hrecords'⟩ :=
        attempt_of_not_refuses hrecords hderived (not_exists.mp hrefused)
      rwa [hattempt]

private theorem records_after (source : NameSource) (base : StrategyClass)
    (definitions : List ClassDefinition) :
    Records source (after source base definitions).classes
      (after source base definitions).registry := by
  induction definitions using List.reverseRecOn with
  | nil => exact Registry.records_empty source
  | append_singleton definitions d ih =>
    rw [after_concat]
    exact records_attempt ih

/-- After any definitions the names are in order, each once, and are those of the concrete classes.
A name stands for the last class that has it, and all that have it share a label. A definition is
refused just if its class is concrete and has no name, or the name of a class with another label. A
definition that fails changes nothing, and any other one adds its class, which inherits from its
parent. -/
theorem registry_after (source : NameSource) (base : StrategyClass)
    (definitions : List ClassDefinition) :
    let h := after source base definitions
    h.registry.names.Pairwise (· < ·) ∧
      (∀ name, name ∈ h.registry.names ↔
        ∃ c ∈ h.classes, c.Complete ∧ c.name? source = some name) ∧
      (∀ name c, h.registry.lookup? name = some c ↔
        AtLast (registrations source h.classes) name c) ∧
      (∀ name, h.registry.lookup? name = none ↔ name ∉ h.registry.names) ∧
      (∀ name c c', (name, c) ∈ registrations source h.classes →
        (name, c') ∈ registrations source h.classes → c.label = c'.label) ∧
      ∀ d, (∀ e, h.define d = .error (.refused e) ↔
          ∃ c, h.derived? d = some c ∧ Refuses source h.classes c e) ∧
        (∀ e, h.define d = .error e → after source base (definitions ++ [d]) = h) ∧
        ∀ c, h.derived? d = some c →
          (∃ parent, h.parent? d = some parent ∧ c.Inherits parent d.label d.members) ∧
          ((∀ e, ¬ Refuses source h.classes c e) →
            (after source base (definitions ++ [d])).classes = h.classes ++ [c]) := by
  intro h
  have hrecords : Records source h.classes h.registry := records_after source base definitions
  refine ⟨hrecords.pairwise_names, fun name => hrecords.mem_names_iff,
    fun name c => hrecords.lookup?_eq_some_iff, fun name => hrecords.lookup?_eq_none_iff,
    fun name c c' => hrecords.label_eq, fun d => ⟨fun e => define_refused_iff hrecords, ?_, ?_⟩⟩
  · intro e herror
    rw [after_concat, attempt_of_error herror]
  · intro c hderived
    refine ⟨exists_parent_of_derived? hderived, fun hrefuses => ?_⟩
    obtain ⟨registry, hattempt, -⟩ := attempt_of_not_refuses hrecords hderived hrefuses
    rw [after_concat, hattempt]

/-- An abstract class with a name, a concrete one that inherits the name, and this one once more. -/
def swaps : List ClassDefinition :=
  [⟨none, "Swap", [("NAME", .value (.text "swap"))]⟩, ⟨some 0, "QuickSwap", [("act", .method)]⟩,
    ⟨some 1, "QuickSwap", [("limit", .value (.int 3))]⟩]

/-- The class may come twice, but one with another label does not get the name that it inherits,
unless it is abstract again. -/
theorem registry_after_swaps :
    let h := after (.attribute "NAME") .base swaps
    let slow : ClassDefinition := ⟨some 0, "SlowSwap", [("act", .method)]⟩
    let undoable : ClassDefinition := ⟨some 2, "Undoable", [("undo", .abstractMethod)]⟩
    (∃ c c', registrations (.attribute "NAME") h.classes = [("swap", c), ("swap", c')] ∧
        c.label = c'.label ∧ h.registry.lookup? "swap" = some c') ∧
      (∃ c, h.derived? slow = some c ∧
        Refuses (.attribute "NAME") h.classes c (.nameTaken "swap")) ∧
      after (.attribute "NAME") .base (swaps ++ [slow]) = h ∧
      ∃ c, h.derived? undoable = some c ∧ (∀ e, ¬ Refuses (.attribute "NAME") h.classes c e) ∧
        (after (.attribute "NAME") .base (swaps ++ [undoable])).classes = h.classes ++ [c] := by
  intro h slow undoable
  obtain ⟨-, -, -, -, hlabel, hdefine⟩ := registry_after (.attribute "NAME") .base swaps
  obtain ⟨c, c', hswap⟩ : ∃ c c', registrations (.attribute "NAME") h.classes =
      [("swap", c), ("swap", c')] ∧ h.registry.lookup? "swap" = some c' := ⟨_, _, rfl, rfl⟩
  have hslow : h.define slow = .error (.refused (.nameTaken "swap")) := rfl
  obtain ⟨child, hchild⟩ : ∃ child, h.derived? undoable = some child := ⟨_, rfl⟩
  have haccepted : ∀ e, ¬ Refuses (.attribute "NAME") h.classes child e := by
    intro e hrefuses
    cases ((hdefine undoable).1 e).mpr ⟨child, hchild, hrefuses⟩
  refine ⟨⟨c, c', hswap.1, hlabel "swap" c c' ?_ ?_, hswap.2⟩, ((hdefine slow).1 _).mp hslow,
    (hdefine slow).2.1 _ hslow, child, hchild, haccepted,
    ((hdefine undoable).2.2 child hchild).2 haccepted⟩
  · exact hswap.1 ▸ List.mem_cons_self
  · exact hswap.1 ▸ List.mem_cons_of_mem _ List.mem_cons_self

end Hierarchy

end GeneticRepair
