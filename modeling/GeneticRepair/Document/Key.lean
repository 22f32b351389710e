import GeneticRepair.Collection.Entries
import GeneticRepair.Document.Value
/-!
# Keys

What may be a key of a map while a program runs: nothing, a number, a truth value or a text. Keys
are told apart by their values, so that `1`, `1.0` and `true` are one key; only keys of one sort can
be brought into an order.
-/

namespace GeneticRepair

inductive Key where
  | null
  | number (q : Quantity)
  | text (s : String)

namespace Key

def ofInt (n : Int) : Key :=
  number (.ofInt n)

/-- The key that a value is. Lists and maps are none. -/
def ofValue? (v : Value) : Option Key :=
  match v with
  | .null => some null
  | .text s => some (text s)
  | v => v.quantity?.map number

def ofValue (v : Value) : Except DocumentError Key :=
  match ofValue? v with
  | some k => return k
  | none => throw .wrongShape

instance : ToValue Key where
  toValue
    | null => .null
    | number q => .ofQuantity q
    | text s => .text s

def same : Key → Key → Bool
  | null, null => true
  | number a, number b => Scalar.same a b
  | text s, text t => s == t
  | _, _ => false

instance : BEq Key := ⟨same⟩

def entriesOfValue (v : Value) : Except DocumentError (List (Key × Value)) := do
  let pairs ← (← v.items).mapM fun pair => do
    match ← pair.items with
    | [k, w] => return (← ofValue k, w)
    | _ => throw .notAPair
  return Entries.ofList pairs

def less : Key → Key → Bool
  | number a, number b => Scalar.less a b
  | text s, text t => s < t
  | _, _ => false

instance : LT Key := ⟨fun a b => less a b = true⟩

instance : DecidableLT Key := fun a b => inferInstanceAs (Decidable (less a b = true))

def isNull : Key → Bool
  | null => true
  | _ => false

def isNumber : Key → Bool
  | number _ => true
  | _ => false

def isText : Key → Bool
  | text _ => true
  | _ => false

/-- Whether keys, of which equals count once, can be brought into an order. -/
def sortable (ks : List Key) : Bool :=
  ks.all isNull || ks.all isNumber || ks.all isText

def fingerprint : Key → Key
  | number q => ofInt q.fingerprint
  | k => k

/-! ## Keys of one sort

Integers and texts are ordered as keys just as they are by themselves.
-/

theorem ofInt_lt {m n : Int} : ofInt m < ofInt n ↔ m < n := by
  change (some (compare m n) == some .lt) = true ↔ m < n
  rw [beq_iff_eq, Option.some.injEq, Int.compare_eq_lt]

theorem ofInt_beq (m n : Int) : (ofInt m == ofInt n) = (m == n) := by
  change (some (compare m n) == some .eq) = (m == n)
  rw [Bool.eq_iff_iff, beq_iff_eq, Option.some.injEq, Int.compare_eq_eq, beq_iff_eq]

theorem text_lt {s t : String} : text s < text t ↔ s < t :=
  decide_eq_true_iff

theorem sortable_map_ofInt (ns : List Int) : sortable (ns.map ofInt) = true := by
  have hnumbers : (ns.map ofInt).all isNumber = true := by
    rw [List.all_map, List.all_eq_true]
    exact fun _ _ => rfl
  simp [sortable, hnumbers]

theorem sortable_map_text (ss : List String) : sortable (ss.map text) = true := by
  have htexts : (ss.map text).all isText = true := by
    rw [List.all_map, List.all_eq_true]
    exact fun _ _ => rfl
  simp [sortable, htexts]

end Key

/-- What keys of one value have in common. -/
def keyFingerprint {α : Type} [ToValue α] (a : α) : Option Key :=
  (Key.ofValue? (toValue a)).map Key.fingerprint

end GeneticRepair
