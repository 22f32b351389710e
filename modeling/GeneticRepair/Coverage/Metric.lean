import GeneticRepair.Config.Error
import GeneticRepair.Coverage.Localization
import GeneticRepair.Coverage.Spectra
/-!
# Suspiciousness metrics

A metric scores each line that some failing test executed, by a formula over its row of the spectra.
Other lines are never suspicious.
-/

namespace GeneticRepair

inductive Metric where
  | genprog | jaccard | ochiai | tarantula
  deriving Repr, DecidableEq

namespace Metric

def all : List Metric := [genprog, jaccard, ochiai, tarantula]

def name : Metric → String
  | genprog => "genprog"
  | jaccard => "jaccard"
  | ochiai => "ochiai"
  | tarantula => "tarantula"

def ofName? (s : String) : Option Metric :=
  all.find? (·.name == s)

def names : List String :=
  all.map name

def named (s : String) : Except Misconfiguration Metric :=
  match ofName? s with
  | some m => return m
  | none => throw (.unknownMetric s names)

variable {R : Type} [Scalar R]

def isZero (x : R) : Bool :=
  Scalar.same x Scalar.zero

def score (r : SpectrumRow R) : Metric → Except ArithmeticError R
  | genprog => if isZero r.ep then Scalar.ratio 1 1 else Scalar.ratio 1 10
  | jaccard => do Scalar.div r.ef (← Scalar.add (← Scalar.add r.ef r.nf) r.ep)
  | ochiai => do
    let product ← Scalar.mul (← Scalar.add r.ef r.nf) (← Scalar.add r.ef r.ep)
    Scalar.div r.ef (← Scalar.sqrt product)
  | tarantula => do
    let failing ← Scalar.div r.ef (← Scalar.add r.ef r.nf)
    let total ← Scalar.add r.ep r.np
    let passing ← if isZero total then pure Scalar.origin else Scalar.div r.ep total
    Scalar.div failing (← Scalar.add failing passing)

inductive Failure where
  | arithmetic (e : ArithmeticError)
  | negativeScore
  deriving Repr, DecidableEq

section Localize

variable {C L : Type} [OfNat C 0] [Sub C] [BEq L] [LT L] [DecidableLT L]

/-- The scores of the lines that a failing test executed, where `measure` makes counts numbers. -/
def scores (metric : Metric) (measure : C → R) (s : Spectra C L) :
    Except ArithmeticError (List (L × R)) :=
  let rows := s.lines.map fun line => (line, (s.row line).map measure)
  (rows.filter fun (_, r) => !isZero r.ef).mapM fun (line, r) => return (line, ← metric.score r)

def localizeWith (metric : Metric) (measure : C → R) (s : Spectra C L) :
    Except Failure (Localization R L) :=
  match metric.scores measure s with
  | .error e => throw (.arithmetic e)
  | .ok scores =>
    match Localization.ofScores scores with
    | .ok l => return l
    | .error .negativeScore => throw .negativeScore

end Localize

def localize (metric : Metric) (s : Spectra) : Except Failure (Localization R) :=
  metric.localizeWith Scalar.ofInt s

end Metric

end GeneticRepair
