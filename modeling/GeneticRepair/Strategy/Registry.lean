import GeneticRepair.Collection.Entries
import GeneticRepair.Document.Value
/-!
# Registries of strategies

The concrete strategies of one kind are registered by name. A strategy is a class, which has
members of its own and inherits the others. It is concrete if no method is left that it only asks
for. Its name is its label or the value of one attribute. A class that is not concrete is never
registered, and no two classes of different labels share a name.
-/

namespace GeneticRepair

inductive Member where
  | value (v : Value)
  | method
  /-- A method that is still to be implemented. -/
  | abstractMethod

def Member.isAbstract : Member → Bool
  | abstractMethod => true
  | value _ | method => false

/-- A class of strategies, with its members before those that it inherits. -/
structure StrategyClass where
  label : String
  members : List (String × Member)

inductive NameSource where
  | label
  | attribute (key : String)
  deriving Repr, DecidableEq

namespace StrategyClass

def action : String := "act"

def base : StrategyClass :=
  ⟨"", [(action, .abstractMethod)]⟩

/-- A class that has, under each name, its own member or else that of its parent. -/
def derive (parent : StrategyClass) (label : String) (members : List (String × Member)) :
    StrategyClass :=
  ⟨label, members ++ parent.members⟩

def member? (c : StrategyClass) (name : String) : Option Member :=
  c.members.lookup name

def isConcrete (c : StrategyClass) : Bool :=
  c.members.all fun (name, _) => !(c.member? name).any Member.isAbstract

/-- The name under which a class is registered, if it is a text. -/
def name? (c : StrategyClass) : NameSource → Option String
  | .label => some c.label
  | .attribute key =>
    match c.member? key with
    | some (.value (.text s)) => some s
    | _ => none

end StrategyClass

inductive RegistrationError where
  | noName
  | nameTaken (name : String)
  deriving Repr, DecidableEq

structure Registry where
  source : NameSource
  entries : List (String × StrategyClass)

namespace Registry

def empty (source : NameSource) : Registry :=
  ⟨source, []⟩

/-- The class that was last registered under a name. -/
def lookup? (r : Registry) (name : String) : Option StrategyClass :=
  r.entries.lookup name

/-- Adds a class, or puts it in place of one with the same name and label. -/
def register (r : Registry) (c : StrategyClass) : Except RegistrationError Registry := do
  if !c.isConcrete then return r
  let some name := c.name? r.source | throw .noName
  if (r.lookup? name).any (·.label != c.label) then throw (.nameTaken name)
  return { r with entries := Entries.set name c r.entries }

/-- All names, in order. -/
def names (r : Registry) : List String :=
  (r.entries.map Prod.fst).mergeSort (· ≤ ·)

end Registry

/-! ## Definitions of classes -/

/-- The definition of a class, which is derived from the base or from a class with a number. -/
structure ClassDefinition where
  parent : Option Nat
  label : String
  members : List (String × Member)

inductive DefinitionError where
  | noParent
  | refused (e : RegistrationError)
  deriving Repr, DecidableEq

/-- The classes that are derived from a base, in the order of their definitions, and the registry of
those that are concrete. -/
structure Hierarchy where
  base : StrategyClass
  classes : List StrategyClass
  registry : Registry

namespace Hierarchy

def new (source : NameSource) (base : StrategyClass) : Hierarchy :=
  ⟨base, [], .empty source⟩

def parent? (h : Hierarchy) (d : ClassDefinition) : Option StrategyClass :=
  match d.parent with
  | none => some h.base
  | some i => h.classes[i]?

/-- The class that is to be defined, unless there is no such parent. -/
def derived? (h : Hierarchy) (d : ClassDefinition) : Option StrategyClass :=
  (h.parent? d).map fun parent => parent.derive d.label d.members

/-- Defines a class and registers it. A class that is refused does not come into being. -/
def define (h : Hierarchy) (d : ClassDefinition) : Except DefinitionError Hierarchy := do
  let some c := h.derived? d | throw .noParent
  let registry ← (h.registry.register c).mapError .refused
  return { h with classes := h.classes ++ [c], registry }

end Hierarchy

end GeneticRepair
