import GeneticRepair.Number.Scalar
/-!
# Stopwatches

A stopwatch adds up the time spent within intervals. Starting a running one and stopping a paused
one has no effect. Resetting discards the time and pauses the watch.
-/

namespace GeneticRepair

/-- The time measured within closed intervals, and the beginning of the open one if there is one. -/
structure Stopwatch (R : Type) where
  elapsed : R
  startedAt : Option R

namespace Stopwatch

variable {R : Type} [Scalar R]

def new : Stopwatch R :=
  ⟨Scalar.origin, none⟩

def paused (w : Stopwatch R) : Bool :=
  w.startedAt.isNone

def start (now : R) (w : Stopwatch R) : Stopwatch R :=
  match w.startedAt with
  | none => { w with startedAt := some now }
  | some _ => w

def duration (now : R) (w : Stopwatch R) : Except ArithmeticError R :=
  match w.startedAt with
  | none => return w.elapsed
  | some t => do Scalar.add w.elapsed (← Scalar.sub now t)

def stop (now : R) (w : Stopwatch R) : Except ArithmeticError (Stopwatch R) :=
  match w.startedAt with
  | none => return w
  | some _ => return ⟨← w.duration now, none⟩

def reset (_ : Stopwatch R) : Stopwatch R :=
  new

/-- What is done with a stopwatch. It runs within a timed section, which is entered and left. -/
inductive Operation where
  | start
  | stop
  | reset
  | enter
  | exit
  deriving Repr, DecidableEq

def perform (now : R) (w : Stopwatch R) : Operation → Except ArithmeticError (Stopwatch R)
  | .start | .enter => return w.start now
  | .stop | .exit => w.stop now
  | .reset => return w.reset

end Stopwatch

end GeneticRepair
