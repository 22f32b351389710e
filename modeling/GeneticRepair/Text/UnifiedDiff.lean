import GeneticRepair.Text.Matching
/-!
# Unified diffs

The changes that turn one sequence of lines into another, in hunks with three lines of context. A
hunk ends where more than six unchanged lines follow.
-/

namespace GeneticRepair.Text

/-- A stretch of the old lines and the stretch of new lines in its place. -/
structure Change where
  equal : Bool
  oldStart : Nat
  oldEnd : Nat
  newStart : Nat
  newEnd : Nat
  deriving Repr, DecidableEq

namespace Change

def between (i j : Nat) : List Block → List Change
  | [] => []
  | b :: bs =>
    (if i < b.left || j < b.right then [⟨false, i, b.left, j, b.right⟩] else []) ++
      (if b.size == 0 then []
        else [⟨true, b.left, b.left + b.size, b.right, b.right + b.size⟩]) ++
      between (b.left + b.size) (b.right + b.size) bs

def all (xs ys : Array String) : List Change :=
  between 0 0 (matchingBlocks xs ys ++ [⟨xs.size, ys.size, 0⟩])

def context : Nat := 3

def shortenFront (c : Change) : Change :=
  { c with oldStart := max c.oldStart (c.oldEnd - context),
           newStart := max c.newStart (c.newEnd - context) }

def shortenBack (c : Change) : Change :=
  { c with oldEnd := min c.oldEnd (c.oldStart + context),
           newEnd := min c.newEnd (c.newStart + context) }

def shortenFirst : List Change → List Change
  | c :: cs => (if c.equal then c.shortenFront else c) :: cs
  | [] => []

def shortenLast : List Change → List Change
  | [] => []
  | [c] => [if c.equal then c.shortenBack else c]
  | c :: cs => c :: shortenLast cs

def consHunk (c : Change) : List (List Change) → List (List Change)
  | [] => [[c]]
  | h :: hs => (c :: h) :: hs

def cut : List Change → List (List Change)
  | [] => []
  | c :: cs =>
    if c.equal && 2 * context < c.oldEnd - c.oldStart then
      [c.shortenBack] :: consHunk c.shortenFront (cut cs)
    else consHunk c (cut cs)

def isHunk : List Change → Bool
  | [] => false
  | [c] => !c.equal
  | _ => true

def hunks (xs ys : Array String) : List (List Change) :=
  (cut (shortenLast (shortenFirst (all xs ys)))).filter isHunk

/-- How the lines of a hunk are counted: from the line before it if there are none. -/
def rangeText (start stop : Nat) : String :=
  let length := stop - start
  if length == 1 then toString (start + 1)
  else toString (if length == 0 then start else start + 1) ++ "," ++ toString length

def slice (mark : String) (xs : Array String) (start stop : Nat) : List String :=
  (xs.extract start stop).toList.map (mark ++ ·)

def lines (xs ys : Array String) (c : Change) : List String :=
  if c.equal then slice " " xs c.oldStart c.oldEnd
  else slice "-" xs c.oldStart c.oldEnd ++ slice "+" ys c.newStart c.newEnd

def hunkLines (xs ys : Array String) (hunk : List Change) : List String :=
  match hunk with
  | [] => []
  | first :: _ =>
    let last := hunk.getLast?.getD first
    ("@@ -" ++ rangeText first.oldStart last.oldEnd ++ " +" ++
      rangeText first.newStart last.newEnd ++ " @@") :: hunk.flatMap (lines xs ys)

end Change

def unifiedDiff (oldName newName : String) (old new : List String) : List String :=
  let xs := old.toArray
  let ys := new.toArray
  match Change.hunks xs ys with
  | [] => []
  | hunks => ("--- " ++ oldName) :: ("+++ " ++ newName) :: hunks.flatMap (Change.hunkLines xs ys)

end GeneticRepair.Text
