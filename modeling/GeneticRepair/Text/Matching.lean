/-!
# Matching blocks

What two sequences have in common, as blocks of equal items. The longest block, of those the
earliest, is taken first; what lies before it and behind it is matched in the same way. Items that
are too common in a long second sequence do not begin a block but may extend one.
-/

namespace GeneticRepair.Text

structure Block where
  left : Nat
  right : Nat
  size : Nat
  deriving Repr, DecidableEq

structure Window where
  left : Nat
  leftEnd : Nat
  right : Nat
  rightEnd : Nat

/-- The positions of the second sequence at which a block may pass through each position of the
first. In a sequence of 200 items or more, an item that makes up over a hundredth of it is
common. -/
def anchors (xs ys : Array String) : Array (List Nat) :=
  let n := ys.size
  xs.map fun x =>
    let found := (List.range n).filter fun j => ys[j]? == some x
    if 200 ≤ n && n / 100 + 1 < found.length then [] else found

namespace Block

/-- Takes position `i` of the first sequence into account: the lengths of the blocks that end there,
and the longest block so far. -/
def extendRow (w : Window) (i : Nat) (ends : List (Nat × Nat)) (best : Block) :
    List Nat → List (Nat × Nat) → List (Nat × Nat) × Block
  | [], row => (row, best)
  | j :: js, row =>
    if j < w.right || w.rightEnd ≤ j then extendRow w i ends best js row
    else
      let size := (if j == 0 then 0 else (ends.lookup (j - 1)).getD 0) + 1
      let best := if best.size < size then ⟨i + 1 - size, j + 1 - size, size⟩ else best
      extendRow w i ends best js ((j, size) :: row)

def longestAnchored (places : Array (List Nat)) (w : Window) : Block :=
  ((List.range' w.left (w.leftEnd - w.left)).foldl (fun (ends, best) i =>
    extendRow w i ends best (places.getD i []) [])
      (([] : List (Nat × Nat)), ⟨w.left, w.right, 0⟩)).2

def growLeft (xs ys : Array String) (w : Window) : Nat → Block → Block
  | 0, b => b
  | fuel + 1, b =>
    if w.left < b.left && w.right < b.right && xs[b.left - 1]? == ys[b.right - 1]? then
      growLeft xs ys w fuel ⟨b.left - 1, b.right - 1, b.size + 1⟩
    else b

def growRight (xs ys : Array String) (w : Window) : Nat → Block → Block
  | 0, b => b
  | fuel + 1, b =>
    if b.left + b.size < w.leftEnd && b.right + b.size < w.rightEnd &&
        xs[b.left + b.size]? == ys[b.right + b.size]? then
      growRight xs ys w fuel { b with size := b.size + 1 }
    else b

def longest (xs ys : Array String) (places : Array (List Nat)) (w : Window) : Block :=
  growRight xs ys w xs.size (growLeft xs ys w xs.size (longestAnchored places w))

/-- The blocks within a window, in order. Every block takes an item of the first sequence, so the
fuel is at most one more than its length. -/
def within (xs ys : Array String) (places : Array (List Nat)) : Nat → Window → List Block
  | 0, _ => []
  | fuel + 1, w =>
    if w.leftEnd ≤ w.left || w.rightEnd ≤ w.right then []
    else
      let b := longest xs ys places w
      if b.size == 0 then []
      else
        within xs ys places fuel ⟨w.left, b.left, w.right, b.right⟩ ++ [b] ++
          within xs ys places fuel ⟨b.left + b.size, w.leftEnd, b.right + b.size, w.rightEnd⟩

def joined : List Block → List Block
  | [] => []
  | b :: bs =>
    match joined bs with
    | c :: cs =>
      if b.left + b.size == c.left && b.right + b.size == c.right then
        ⟨b.left, b.right, b.size + c.size⟩ :: cs
      else b :: c :: cs
    | [] => [b]

end Block

def matchingBlocks (xs ys : Array String) : List Block :=
  Block.joined (Block.within xs ys (anchors xs ys) (xs.size + 1) ⟨0, xs.size, 0, ys.size⟩)

end GeneticRepair.Text
