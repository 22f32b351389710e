/-!
# Searching text

Whether one text occurs within another, and what follows its first occurrence.
-/

namespace GeneticRepair.Text

def afterFirst? (needle : List Char) : List Char → Option (List Char)
  | [] => if needle.isEmpty then some [] else none
  | c :: cs =>
    if needle.isPrefixOf (c :: cs) then some ((c :: cs).drop needle.length)
    else afterFirst? needle cs

def occursIn (needle hay : List Char) : Bool :=
  (afterFirst? needle hay).isSome

def occurInOrder : List (List Char) → List Char → Bool
  | [], _ => true
  | needle :: needles, hay =>
    match afterFirst? needle hay with
    | some rest => occurInOrder needles rest
    | none => false

def contains (hay needle : String) : Bool :=
  occursIn needle.toList hay.toList

end GeneticRepair.Text
