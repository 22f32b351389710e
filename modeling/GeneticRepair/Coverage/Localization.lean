import GeneticRepair.Collection.Entries
import GeneticRepair.Coverage.Map
import GeneticRepair.Document.Value
import GeneticRepair.Document.JsonReader
import GeneticRepair.Document.JsonPrinter
import GeneticRepair.Random.Source
/-!
# Fault localization

The suspicious lines of a program with their scores, in ascending order. No score is negative, and a
line whose score is not positive is not suspicious. Lines are integers, but a document may name them
by other keys.
-/

namespace GeneticRepair

inductive LocalizationError where
  | negativeScore
  deriving Repr, DecidableEq

def LocalizationError.message : LocalizationError → String
  | negativeScore => "suspiciousness scores cannot be negative"

structure Localization (R : Type) (L : Type := Int) where
  scores : List (L × R)

namespace Localization

variable {R L : Type} [Scalar R]

def empty : Localization R L :=
  ⟨[]⟩

def isSuspicious (score : R) : Bool :=
  Scalar.less Scalar.origin score

variable [BEq L]

/-- The localization with the given scores; of a line that comes twice the last score counts. -/
def ofScores [LT L] [DecidableLT L] (scores : List (L × R)) :
    Except LocalizationError (Localization R L) :=
  let known := Entries.ofList scores
  if known.any fun (_, score) => Scalar.less score Scalar.origin then throw .negativeScore
  else return ⟨Sorted.ofEntries (known.filter fun (_, score) => isSuspicious score)⟩

omit [Scalar R] [BEq L] in
def lines (l : Localization R L) : List L :=
  l.scores.map Prod.fst

omit [Scalar R] in
def contains (l : Localization R L) (line : L) : Bool :=
  (l.scores.lookup line).isSome

/-- The score of a line, which is zero if the line is not suspicious. -/
def score (l : Localization R L) (line : L) : R :=
  (l.scores.lookup line).getD Scalar.origin

omit [Scalar R] [BEq L] in
def filter (l : Localization R L) (keep : L → Bool) : Localization R L :=
  ⟨l.scores.filter fun (line, _) => keep line⟩

omit [Scalar R] in
def excludeLines (l : Localization R L) (lines : List L) : Localization R L :=
  l.filter fun line => !lines.contains line

omit [Scalar R] in
def restrictToLines (l : Localization R L) (lines : List L) : Localization R L :=
  l.filter lines.contains

def same (l m : Localization R L) : Bool :=
  l.scores.length == m.scores.length &&
    (l.scores.zip m.scores).all fun ((line, x), (other, y)) => line == other && Scalar.same x y

omit [BEq L] in
/-- Draws a line with probability proportional to its score. -/
def sample {G : Type} [RandomSource G] (l : Localization R L) :
    ExceptT SamplingError (StateM G) L :=
  Random.weightedChoice l.scores

end Localization

/-! ## Localizations as documents -/

namespace Localization

section Text

variable {L : Type} [ToValue L]

def toValue (l : Localization Quantity L) : Except FixedError Value :=
  return .map (← l.scores.mapM fun (line, score) => return (← writtenText line, .ofQuantity score))

def toJson (layout : Value → String) (l : Localization Quantity L) : Except FixedError String := do
  let v ← l.toValue
  if v.holdsLongInteger then throw .tooManyDigits
  return layout v

def scoreTexts (places : Nat) (l : Localization Quantity L) :
    Except FixedError (List String) :=
  l.scores.mapM fun (line, score) =>
    return (← writtenText line) ++ ": " ++ (← fixedText places score)

def text (l : Localization Quantity L) : Except FixedError String :=
  return "Localization(" ++ "; ".intercalate (← l.scoreTexts 2) ++ ")"

def fingerprint (l : Localization Quantity L) : List (Option Key × Int) :=
  l.scores.map fun (line, score) => (keyFingerprint line, score.fingerprint)

end Text

inductive ReadError where
  | malformedJson
  | tooManyDigits
  | notAMap
  | notALine (key : String)
  | document (e : DocumentError)
  | notAScore
  | negativeScore
  deriving DecidableEq

def scoreOfValue (v : Value) : Except ReadError Quantity :=
  match v.quantity? with
  | some score => return score
  | none => throw .notAScore

/-- Scores are looked at one after another: the first that is no number or is negative decides. -/
def checkScores : List (Key × Value) → Except ReadError (List (Key × Quantity))
  | [] => return []
  | (line, v) :: es => do
    let score ← scoreOfValue v
    if Scalar.less score Scalar.origin then throw .negativeScore
    return (line, score) :: (← checkScores es)

def ofEntries (es : List (Key × Value)) : Except ReadError (Localization Quantity Key) := do
  let scores ← checkScores es
  unless Key.sortable (scores.map Prod.fst) do throw (.document .wrongShape)
  match ofScores scores with
  | .ok l => return l
  | .error .negativeScore => throw .negativeScore

def ofPairs (v : Value) : Except ReadError (Localization Quantity Key) := do
  ofEntries (← (Key.entriesOfValue v).mapError .document)

def ofValue : Value → Except ReadError (Localization Quantity Key)
  | .map es => do
    let known ← es.mapM fun (key, v) =>
      match Number.readInt? key with
      | some line => return (Key.ofInt line, v)
      | none => throw (.notALine key)
    ofEntries (Entries.ofList known)
  | _ => throw .notAMap

def ofJson (s : String) : Except ReadError (Localization Quantity Key) :=
  match Json.read s with
  | .ok v => ofValue v
  | .error .malformed => throw .malformedJson
  | .error .tooManyDigits => throw .tooManyDigits

def linesOfValue (v : Value) : Except DocumentError (List Key) := do
  (← v.items).mapM Key.ofValue

def linesWithin (v : Value) : Except DocumentError (List Key) :=
  return (← v.items).filterMap Key.ofValue?

end Localization

end GeneticRepair
