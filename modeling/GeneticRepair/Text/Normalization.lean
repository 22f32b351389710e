import GeneticRepair.Text.CombiningClass
import GeneticRepair.Text.Compatibility
/-!
# Normal form of names

Two names are the same if they differ only in how their characters are composed or in which of
several compatible characters they use. The normal form takes every character apart, brings the
marks behind a character into the order of their classes, and composes again what can be composed.
-/

namespace GeneticRepair.Text

def decomposeUpTo : Nat → Nat → List Nat
  | 0, c => [c]
  | depth + 1, c =>
    match Hangul.decompose? c, compatible.lookup c, composites.lookup c with
    | some parts, _, _ | none, some parts, _ => parts
    | none, none, some parts => parts.flatMap (decomposeUpTo depth)
    | none, none, none => [c]

/-- No character is composed of others more than five deep. -/
def decompose (c : Nat) : List Nat :=
  decomposeUpTo 5 c

/-- Puts a mark behind those that it may not pass: the marks in front of it of no higher class. -/
def insertMark (c : Nat) : List Nat → List Nat
  | [] => [c]
  | d :: marks =>
    if combiningClass d ≤ combiningClass c then d :: insertMark c marks else c :: d :: marks

/-- The text with the marks behind each character in the order of their classes. `marks` are those
found since the last character that is no mark. -/
def reorder (marks : List Nat) : List Nat → List Nat
  | [] => marks
  | c :: cs =>
    if combiningClass c == 0 then marks ++ c :: reorder [] cs
    else reorder (insertMark c marks) cs

/-- Composes a text. `base` is the last character that is no mark, and `marks` are those behind it
that it could not be composed with: they keep out marks of no higher class. -/
def recompose (base : Option Nat) (marks : List Nat) : List Nat → List Nat
  | [] => base.toList ++ marks
  | c :: cs =>
    let cls := combiningClass c
    let reaches : Bool := match marks.getLast? with
      | some m => decide (combiningClass m < cls)
      | none => true
    let composed := match base with
      | some b => if reaches then compose? b c else none
      | none => none
    match composed with
    | some b => recompose (some b) marks cs
    | none =>
      if cls == 0 then base.toList ++ marks ++ recompose (some c) [] cs
      else recompose base (marks ++ [c]) cs

def normalize (cs : List Nat) : List Nat :=
  recompose none [] (reorder [] (cs.flatMap decompose))

def normalName (s : String) : String :=
  if s.toList.all fun c => c.toNat < 0x80 then s
  else String.ofList ((normalize (s.toList.map Char.toNat)).map Char.ofNat)

end GeneticRepair.Text
