import GeneticRepair.Number.Quantity
import GeneticRepair.Number.Shortest
import GeneticRepair.Text.Quoted
/-!
# Documents

A document is null, a truth value, a number, a text, a list, or a map from texts. The entries of a
map keep the order in which their keys first came. Only numbers and truth values can be written with
a fixed count of decimal places.
-/

namespace GeneticRepair

open GeneticRepair.Text

inductive Value where
  | null
  | bool (b : Bool)
  | int (n : Int)
  | float (x : Float)
  | text (s : String)
  | list (vs : List Value)
  | map (entries : List (String × Value))

inductive DocumentError where
  | missingKey
  | wrongShape
  /-- A pair does not have two items. -/
  | notAPair
  deriving Repr, DecidableEq

namespace Value

instance : Inhabited Value :=
  ⟨null⟩

def isNull : Value → Bool
  | null => true
  | _ => false

def isMap : Value → Bool
  | map _ => true
  | _ => false

def get? : Value → String → Option Value
  | map entries, key => entries.lookup key
  | _, _ => none

def hasOnly (v : Value) (names : List String) : Bool :=
  match v with
  | map entries => entries.all fun (key, _) => names.contains key
  | _ => true

def demand : Value → String → Except DocumentError Value
  | map entries, key =>
    match entries.lookup key with
    | some v => return v
    | none => throw .missingKey
  | _, _ => throw .wrongShape

def items : Value → Except DocumentError (List Value)
  | list vs => return vs
  | map entries => return entries.map fun (k, _) => text k
  | text s => return s.toList.map fun c => text (String.singleton c)
  | _ => throw .wrongShape

def textsOf (v : Value) (key : String) : List String :=
  match v.get? key with
  | some (list vs) => vs.filterMap fun
    | text s => some s
    | _ => none
  | _ => []

/-- Zero, the empty text and whatever else is empty count as false. -/
def isTrue : Value → Bool
  | null => false
  | bool b => b
  | int n => n != 0
  | float x => x != 0.0
  | text s => s != ""
  | list vs => !vs.isEmpty
  | map entries => !entries.isEmpty

def quantity? : Value → Option Quantity
  | bool b => some (.flag b)
  | int n => some (.number (.int n))
  | float x => some (.number (.float x))
  | _ => none

def isUndefined : Value → Bool
  | float x => x.isNaN
  | _ => false

def ofNumber : Number → Value
  | .int n => int n
  | .float x => float x

def ofQuantity : Quantity → Value
  | .number a => ofNumber a
  | .flag b => bool b

def texts (ss : List String) : Value :=
  list (ss.map text)

def floatStyle : Number.FloatStyle :=
  ⟨true, "inf", "nan"⟩

mutual

/-- Equality by value. A number that is not defined differs even from itself, except within a list
or a map. -/
def same : Value → Value → Bool
  | null, null => true
  | text s, text t => s == t
  | list vs, list ws => sameItems vs ws
  | map es, map fs => es.length == fs.length && sameEntries es fs
  | v, w =>
    match v.quantity?, w.quantity? with
    | some a, some b => Scalar.same a b
    | _, _ => false

def sameItems : List Value → List Value → Bool
  | [], [] => true
  | v :: vs, w :: ws => (same v w || (isUndefined v && isUndefined w)) && sameItems vs ws
  | _, _ => false

def sameEntries : List (String × Value) → List (String × Value) → Bool
  | [], _ => true
  | (k, v) :: es, fs =>
    (match fs.lookup k with
      | some w => same v w || (isUndefined v && isUndefined w)
      | none => false) && sameEntries es fs

end

mutual

def shownInside : Value → String
  | null => "None"
  | bool b => if b then "True" else "False"
  | int n => toString n
  | float x => Number.floatText floatStyle x
  | text s => quotedString s
  | list vs => "[" ++ ", ".intercalate (shownItems vs) ++ "]"
  | map entries => "\x7b" ++ ", ".intercalate (shownEntries entries) ++ "\x7d"

def shownItems : List Value → List String
  | [] => []
  | v :: vs => shownInside v :: shownItems vs

def shownEntries : List (String × Value) → List String
  | [] => []
  | (k, v) :: entries => (quotedString k ++ ": " ++ shownInside v) :: shownEntries entries

end

mutual

/-- Whether a value holds an integer of more than 4300 digits. -/
def holdsLongInteger : Value → Bool
  | int n => Nat.pow 10 4300 ≤ n.natAbs
  | list vs => anyHoldsLongInteger vs
  | map entries => anyEntryHoldsLongInteger entries
  | _ => false

def anyHoldsLongInteger : List Value → Bool
  | [] => false
  | v :: vs => holdsLongInteger v || anyHoldsLongInteger vs

def anyEntryHoldsLongInteger : List (String × Value) → Bool
  | [] => false
  | (_, v) :: entries => holdsLongInteger v || anyEntryHoldsLongInteger entries

end

def shown : Value → String
  | text s => s
  | v => v.shownInside

end Value

/-- What a document can hold. -/
class ToValue (α : Type) where
  toValue : α → Value

export ToValue (toValue)

instance : ToValue Value := ⟨id⟩

instance : ToValue Bool := ⟨.bool⟩

instance : ToValue Int := ⟨.int⟩

instance : ToValue String := ⟨.text⟩

instance : ToValue Quantity := ⟨.ofQuantity⟩

def shownText {α : Type} [ToValue α] (a : α) : String :=
  (toValue a).shown

inductive FixedError where
  | arithmetic (e : ArithmeticError)
  /-- A text is no number. -/
  | text
  /-- Neither a number nor a text. -/
  | wrongShape
  /-- An integer has more than 4300 digits. -/
  | tooManyDigits
  deriving Repr, DecidableEq

/-- How something is written, which no integer of more than 4300 digits can be. -/
def writtenText {α : Type} [ToValue α] (a : α) : Except FixedError String :=
  if (toValue a).holdsLongInteger then throw .tooManyDigits else return shownText a

def fixedText {α : Type} [ToValue α] (places : Nat) (a : α) : Except FixedError String :=
  let v := toValue a
  match v.quantity?, v with
  | some q, _ => (q.fixed places).mapError .arithmetic
  | none, .text _ => throw .text
  | none, _ => throw .wrongShape

end GeneticRepair
