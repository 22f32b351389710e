/-!
# Maps and sets as lists

The entries of a map are kept in the order in which their keys first came, or in strictly ascending
order of the keys. The members of a set are kept in strictly ascending order.
-/

namespace GeneticRepair.Entries

variable {K V : Type} [BEq K]

/-- Sets the value of a key: a new key comes last, a known one keeps its place. -/
def set (key : K) (value : V) : List (K × V) → List (K × V)
  | [] => [(key, value)]
  | (k, v) :: es => if k == key then (k, value) :: es else (k, v) :: set key value es

/-- The map with the given entries; of a key that comes twice the last value counts. -/
def ofList (es : List (K × V)) : List (K × V) :=
  es.foldl (fun known (k, v) => set k v known) []

end GeneticRepair.Entries

/-! ## In ascending order -/

namespace GeneticRepair.Sorted

variable {K V : Type} [LT K] [DecidableLT K]

def insert (key : K) : List K → List K
  | [] => [key]
  | k :: ks => if key < k then key :: k :: ks else if k < key then k :: insert key ks else k :: ks

def ofList (ks : List K) : List K :=
  ks.foldl (fun known k => insert k known) []

/-- Sets the value of a key, which stays as it is if it is known. -/
def put (key : K) (value : V) : List (K × V) → List (K × V)
  | [] => [(key, value)]
  | (k, v) :: es =>
    if key < k then (key, value) :: (k, v) :: es
    else if k < key then (k, v) :: put key value es
    else (k, value) :: es

def ofEntries (es : List (K × V)) : List (K × V) :=
  es.foldl (fun known (k, v) => put k v known) []

theorem mem_insert [Std.Irrefl (α := K) (· < ·)] [Std.Trichotomous (α := K) (· < ·)]
    {key x : K} {ks : List K} : x ∈ insert key ks ↔ x = key ∨ x ∈ ks := by
  induction ks with
  | nil => simp [insert]
  | cons k ks ih =>
    simp only [insert]
    split
    · simp
    · split
      · simp only [List.mem_cons, ih]
        exact or_left_comm
      · rename_i h₁ h₂
        have : key = k := Std.Trichotomous.trichotomous key k h₁ h₂
        simp [this]

end GeneticRepair.Sorted
