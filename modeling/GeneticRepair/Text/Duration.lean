import GeneticRepair.Document.Value
import GeneticRepair.Number.Digits
/-!
# Durations

A number of seconds written in hours, minutes and seconds. Fractions are cut off. Below zero the
hours are negative, and the minutes and seconds count up from them.
-/

namespace GeneticRepair.Text

inductive DurationError where
  | infinite
  | notANumber
  | wrongShape
  deriving Repr, DecidableEq

def truncate (x : Float) : Except DurationError Int :=
  match Number.exact x with
  | .notANumber => throw .notANumber
  | .infinity _ => throw .infinite
  | .finite negative m e =>
    return Number.signed negative (m * Nat.pow 2 e.toNat / Nat.pow 2 (-e).toNat)

def wholeSeconds : Value → Except DurationError Int
  | .int n => return n
  | .bool b => return if b then 1 else 0
  | .float x => truncate x
  | .text s =>
    match Number.readInt? s with
    | some n => return n
    | none => throw .notANumber
  | _ => throw .wrongShape

def twoPlaces (n : Int) : String :=
  Number.padStart 2 ' ' (toString n)

def durationText (seconds : Int) : String :=
  let minutes := seconds.fmod 3600
  toString (seconds.fdiv 3600) ++ " h " ++ twoPlaces (minutes.fdiv 60) ++ " m " ++
    twoPlaces (minutes.fmod 60) ++ " s"

end GeneticRepair.Text
