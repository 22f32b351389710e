/-!
# Recently used entries

A map that may hold at most a fixed number of entries. An entry is used when it is put and when it
is found; to make room for a new one, the entry that was used least recently is discarded.
-/

namespace GeneticRepair

structure RecentlyUsed (K V : Type) where
  /-- How many entries there is room for, if that is limited. -/
  capacity : Option Nat
  /-- The entries in the order of their last use. -/
  entries : List (K × V)

namespace RecentlyUsed

variable {K V : Type}

def empty (capacity : Option Nat) : RecentlyUsed K V :=
  ⟨capacity, []⟩

def size (m : RecentlyUsed K V) : Nat :=
  m.entries.length

def fitting (m : RecentlyUsed K V) (entries : List (K × V)) : List (K × V) :=
  match m.capacity with
  | some n => entries.drop (entries.length - n)
  | none => entries

variable [DecidableEq K]

def without (m : RecentlyUsed K V) (key : K) : List (K × V) :=
  m.entries.filter fun (k, _) => k ≠ key

/-- Looks up a key, and uses it if it is there. -/
def get (m : RecentlyUsed K V) (key : K) : Option V × RecentlyUsed K V :=
  match m.entries.lookup key with
  | some value => (some value, { m with entries := m.without key ++ [(key, value)] })
  | none => (none, m)

def put (m : RecentlyUsed K V) (key : K) (value : V) : RecentlyUsed K V :=
  { m with entries := m.fitting (m.without key ++ [(key, value)]) }

end RecentlyUsed

end GeneticRepair
