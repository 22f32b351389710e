import GeneticRepair.Config.Error
import GeneticRepair.Document.Value
/-!
# Properties

The properties of the sections of a configuration. One that is missing has a default; one of the
wrong kind is refused. Where a number is only compared, a truth value may stand for it.
-/

namespace GeneticRepair

inductive ConfigError where
  | misconfigured (m : Misconfiguration)
  /-- A value cannot be compared with a number. -/
  | incomparable
  /-- A property is overridden that cannot be, or by what it cannot be. -/
  | override
  /-- A number is beyond all floats. -/
  | outOfRange
  /-- An integer is too long to be shown. -/
  | tooManyDigits
  deriving Repr, DecidableEq

namespace Config

variable {α : Type}

def refuse (m : Misconfiguration) : Except ConfigError α :=
  throw (.misconfigured m)

def require (holds : Bool) (m : Misconfiguration) : Except ConfigError Unit :=
  if holds then return () else refuse m

def shown (v : Value) : Except ConfigError String :=
  if v.holdsLongInteger then throw .tooManyDigits else return v.shown

/-- The value of a property; a null that is given counts. -/
def property (properties : Value) (name : String) (default : Value) : Value :=
  (properties.get? name).getD default

def sectionOf (properties : Value) (name : String) : Except ConfigError Value :=
  match property properties name .null with
  | .null => return .map []
  | .map entries => return .map entries
  | _ => refuse (.sectionShape name)

def text (place : Place) : Value → Except ConfigError String
  | .text s => return s
  | _ => refuse (.propertyShape place .string)

def truth (place : Place) : Value → Except ConfigError Bool
  | .bool b => return b
  | _ => refuse (.propertyShape place .bool)

/-- An integer; truth values are none. -/
def integer (place : Place) : Value → Except ConfigError Int
  | .int n => return n
  | _ => refuse (.propertyShape place .int)

def count (place : Place) : Value → Except ConfigError Quantity
  | .int n => return .ofInt n
  | .bool b => return .flag b
  | _ => refuse (.propertyShape place .int)

def float (place : Place) : Value → Except ConfigError Quantity
  | .int n =>
    match Number.floatOfInt n with
    | .ok x => return .number (.float x)
    | .error _ => throw .outOfRange
  | .float x => return .number (.float x)
  | _ => refuse (.propertyShape place .number)

/-- Whatever may be compared with a number. -/
def comparable (v : Value) : Except ConfigError Quantity :=
  match v.quantity? with
  | some q => return q
  | none => throw .incomparable

def atLeast (least : Nat) (m : Misconfiguration) (v : Value) : Except ConfigError Quantity := do
  let q ← comparable v
  require (!Scalar.less q (.ofInt least)) m
  return q

end Config

end GeneticRepair
