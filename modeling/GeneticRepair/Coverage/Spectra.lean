import GeneticRepair.Collection.Entries
import GeneticRepair.Coverage.Map
/-!
# Spectra

For each line of a program, how many of the passing and of the failing tests executed it. Only lines
that some test executed are members, but every line has a row. Lines and counts are integers, but a
document may give both as other values.
-/

namespace GeneticRepair

structure SpectrumRow (C : Type := Int) where
  /-- Passing tests that executed the line. -/
  ep : C
  /-- Failing tests that executed the line. -/
  ef : C
  /-- Passing tests that did not. -/
  np : C
  /-- Failing tests that did not. -/
  nf : C
  deriving Repr, DecidableEq

namespace SpectrumRow

variable {C D : Type}

def map (f : C → D) (r : SpectrumRow C) : SpectrumRow D :=
  ⟨f r.ep, f r.ef, f r.np, f r.nf⟩

def toList (r : SpectrumRow C) : List C :=
  [r.ep, r.ef, r.np, r.nf]

end SpectrumRow

structure Spectra (C : Type := Int) (L : Type := Int) where
  passing : C
  failing : C
  /-- For each line that passing tests executed, how many did. -/
  tallyPassing : List (L × C)
  /-- For each line that failing tests executed, how many did. -/
  tallyFailing : List (L × C)

namespace Spectra

section Counting

variable {N L : Type} [BEq L]

def count (line : L) (tally : List (L × Int)) : List (L × Int) :=
  Entries.set line ((tally.lookup line).getD 0 + 1) tally

/-- For each line, in how many of the tests it occurs. -/
def tally (tests : List (TestCoverage N L)) : List (L × Int) :=
  (tests.flatMap TestCoverage.lines).foldl (fun known line => count line known) []

def ofCoverage (m : CoverageMap N L) : Spectra Int L where
  passing := m.passing.size
  failing := m.failing.size
  tallyPassing := tally m.passing.tests
  tallyFailing := tally m.failing.tests

end Counting

variable {C L : Type} [OfNat C 0] [Sub C] [BEq L]

def row (s : Spectra C L) (line : L) : SpectrumRow C :=
  let ep := (s.tallyPassing.lookup line).getD 0
  let ef := (s.tallyFailing.lookup line).getD 0
  ⟨ep, ef, s.passing - ep, s.failing - ef⟩

omit [OfNat C 0] [Sub C] in
def contains (s : Spectra C L) (line : L) : Bool :=
  (s.tallyPassing.lookup line).isSome || (s.tallyFailing.lookup line).isSome

omit [OfNat C 0] [Sub C] [BEq L] in
def lines [LT L] [DecidableLT L] (s : Spectra C L) : List L :=
  Sorted.ofList (s.tallyPassing.map Prod.fst ++ s.tallyFailing.map Prod.fst)

variable [ToValue C] [ToValue L]

def rowText (s : Spectra C L) (line : L) : String :=
  shownText line ++ ": (" ++ ", ".intercalate ((s.row line).toList.map shownText) ++ ")"

def text [LT L] [DecidableLT L] (s : Spectra C L) : String :=
  "\n".intercalate ("LINE: (ep, ef, np, nf)" :: s.lines.map s.rowText)

end Spectra

/-! ## Spectra in documents -/

namespace Spectra

inductive ReadError where
  | document (e : DocumentError)
  | arithmetic (e : ArithmeticError)
  deriving Repr, DecidableEq

/-- The difference of counts; what is too large for any float is left out of account. -/
instance : Sub Quantity where
  sub a b := (Scalar.sub a b).toOption.getD a

instance : OfNat Quantity 0 where
  ofNat := .ofInt 0

def keys (s : Spectra Quantity Key) : List Key :=
  s.tallyPassing.map Prod.fst ++ s.tallyFailing.map Prod.fst

def check (s : Spectra Quantity Key) : Except ReadError (Spectra Quantity Key) := do
  if !Key.sortable s.keys then throw (.document .wrongShape)
  for (_, n) in s.tallyPassing do
    let _ ← (Scalar.sub s.passing n).mapError ReadError.arithmetic
  for (_, n) in s.tallyFailing do
    let _ ← (Scalar.sub s.failing n).mapError ReadError.arithmetic
  return s

def widen (s : Spectra Int Key) : Spectra Quantity Key where
  passing := .ofInt s.passing
  failing := .ofInt s.failing
  tallyPassing := s.tallyPassing.map fun (line, n) => (line, .ofInt n)
  tallyFailing := s.tallyFailing.map fun (line, n) => (line, .ofInt n)

def quantityOfValue (v : Value) : Except DocumentError Quantity :=
  match v.quantity? with
  | some q => return q
  | none => throw .wrongShape

def tallyOfValue (v : Value) : Except DocumentError (List (Key × Quantity)) := do
  (← Key.entriesOfValue v).mapM fun (line, n) => return (line, ← quantityOfValue n)

def ofValue (v : Value) : Except ReadError (Spectra Quantity Key) := do
  match v.get? "coverage" with
  | some m => check (ofCoverage (← (CoverageMap.ofValue m).mapError ReadError.document)).widen
  | none =>
    let read {α : Type} (name : String) (f : Value → Except DocumentError α) :
        Except ReadError α :=
      (do f (← v.demand name)).mapError ReadError.document
    check ⟨← read "num_pass" quantityOfValue, ← read "num_fail" quantityOfValue,
      ← read "tally_pass" tallyOfValue, ← read "tally_fail" tallyOfValue⟩

end Spectra

end GeneticRepair
