import GeneticRepair.Candidate.Basic

/-!
# Evaluation

A candidate is compiled and tested at most once, whatever is asked of it and of its copies. A system
fault is never remembered: it makes a compilation fail for the moment, and an evaluation fail
altogether. Fitness rewards each passing test, by whether the baseline passed or failed it; the
first candidate that is scored becomes the baseline.
-/

namespace GeneticRepair.Candidate

variable {R T G : Type} [Toolchain T]

def rememberBuild (c : Candidate R) (m : Memo) (build : BuildOutcome) : Action T G Bool := do
  Lab.setMemo c.memo { m with build := some build }
  return build.successful

/-- Whether the candidate compiles; its tests are not run for that. -/
def isCompilable (c : Candidate R) : Action T G Bool := do
  let m ← Lab.memo c.memo
  match m.build, m.result with
  | some build, _ => return build.successful
  | none, some result => c.rememberBuild m result.build
  | none, none =>
    match ← Lab.use (Toolchain.compile c.program) with
    | .ok build => c.rememberBuild m build
    | .error (.system _) => return false
    | .error e => throw (.toolchain e)

/-- What a test run comes to; a build that is known to have failed is not repeated. -/
def runTests (c : Candidate R) (build : Option BuildOutcome) : Action T G TestRun := do
  match build with
  | some build =>
    if build.successful then testAll else return ⟨build, .empty⟩
  | none => testAll
where
  testAll : Action T G TestRun := do
    match ← Lab.use (Toolchain.runTests c.program c.suite) with
    | .ok result => return result
    | .error (.system fault) => throw (.evaluation c.id fault)
    | .error e => throw (.toolchain e)

/-- Compiles the candidate and runs its tests, unless that has been done. -/
def evaluate (c : Candidate R) : Action T G TestRun := do
  let m ← Lab.memo c.memo
  match m.result with
  | some result => return result
  | none =>
    let result ← c.runTests m.build
    Lab.setMemo c.memo { m with result := some result, build := some result.build }
    return result

def evaluate? (c : Candidate R) : Action T G (Option TestRun) :=
  tryCatch (some <$> c.evaluate) fun
    | .evaluation .. => return none
    | e => throw e

/-- The result of the evaluation of a candidate that compiles. -/
def evaluateCompiled? (c : Candidate R) : Action T G (Option TestRun) := do
  if ← c.isCompilable then
    return (← c.evaluate?).filter TestRun.compiled
  else
    return none

omit [Toolchain T] in
def result? (c : Candidate R) : Action T G (Option TestRun) :=
  return (← Lab.memo c.memo).result

omit [Toolchain T] in
def isEvaluated (c : Candidate R) : Action T G Bool :=
  return (← c.result?).isSome

omit [Toolchain T] in
/-- The coverage of the tests; empty until the candidate has been evaluated. -/
def coverage (c : Candidate R) : Action T G CoverageMap :=
  return ((← c.result?).map TestRun.coverage).getD .empty

omit [Toolchain T] in
def spectra (c : Candidate R) : Action T G Spectra := do
  let m ← Lab.memo c.memo
  match m.spectra, m.result with
  | some s, _ => return s
  | none, some result =>
    let s := Spectra.ofCoverage result.coverage
    Lab.setMemo c.memo { m with spectra := some s }
    return s
  | none, none => return .ofCoverage (.empty : CoverageMap)

omit [Toolchain T] in
def tally (c : Candidate R) (count : SpectrumRow → Int) : Action T G (List (Int × Int)) := do
  let s ← c.spectra
  return (List.range c.lines.length).map fun i =>
    (Int.ofNat (i + 1), count (s.row (Int.ofNat (i + 1))))

variable [Scalar R]

/-- The suspicious lines; none if the candidate does not compile or cannot be evaluated. -/
def suspiciousness (c : Candidate R) : Action T G (Localization R) := do
  match ← c.evaluateCompiled? with
  | some _ => Lab.orFail .scoring (c.strategies.metric.localize (← c.spectra))
  | none => return .empty

/-- The baseline, which the given result becomes if there is none. -/
def baseline (result : TestRun) : Action T G Baseline := do
  match (← get).baseline with
  | some b => return b
  | none =>
    let b : Baseline := ⟨result.passing, result.failing⟩
    modify fun s => { s with baseline := some b }
    return b

def common (xs ys : List String) : Int :=
  Int.ofNat (xs.filter ys.contains).length

def score (w : Weights R) (b : Baseline) (passing : List String) : Except ArithmeticError R := do
  let kept ← Scalar.mul (Scalar.ofInt (common passing b.passing)) w.positive
  let gained ← Scalar.mul (Scalar.ofInt (common passing b.failing)) w.negative
  Scalar.add kept gained

def fitness (c : Candidate R) : Action T G R := do
  match ← c.evaluateCompiled? with
  | some result =>
    let b ← baseline result
    Lab.orFail .arithmetic (score c.strategies.weights b result.passing)
  | none => return Scalar.origin

/-- Whether the candidate passes as many tests as the baseline has. -/
def isRepair (c : Candidate R) : Action T G Bool := do
  if (← get).baseline.isNone then
    let _ ← c.fitness
  match (← get).baseline with
  | none => return false
  | some b =>
    match ← c.evaluateCompiled? with
    | some result => return result.passing.length == b.passing.length + b.failing.length
    | none => return false

/-! ## Tournament selection

Two distinct members of a population are drawn, and the fitter one is selected; of equally fit ones
the second. -/

def emptyPopulationMessage : String :=
  "cannot select from an empty population"

def fitter (c d : Candidate R) : Action T G (Candidate R) := do
  let x ← c.fitness
  let y ← d.fitness
  return if Scalar.less y x then c else d

/-- The winner between the members at two positions that are drawn in the given way. -/
def selectBy (draw : Nat → StateM G (Nat × Nat)) (population : List (Candidate R)) :
    Action T G (Candidate R) := do
  match population with
  | [] => throw .emptyPopulation
  | [c] => return c
  | c :: _ =>
    let (i, j) ← Lab.draw (draw population.length)
    fitter (population.getD i c) (population.getD j c)

def select [RandomSource G] (population : List (Candidate R)) : Action T G (Candidate R) :=
  selectBy Random.twoBelow population

end GeneticRepair.Candidate
