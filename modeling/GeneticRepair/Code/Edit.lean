import GeneticRepair.Code.Part
/-!
# Edits

Insertion, deletion and exchange of statements, and of whatever else a path can lead to. An edit
goes to the places that its paths name, changes the lists there, and brings the module back to
normal form. A path that leads nowhere is an error. When one of two swapped parts holds the other,
the inner one takes the place of the outer one.
-/

namespace GeneticRepair.Code

def indexIn (length : Nat) : Position → Except PathError Nat
  | .index i =>
    let j := if i < 0 then i + length else i
    if 0 ≤ j ∧ j < length then return j.toNat else throw .outOfRange
  | .improper => throw .unsuited

/-- The nearest index at which something can be inserted. An index that is too large for any list is
refused; what a list has an index for is not. -/
def insertionIndex (length : Nat) : Position → Except PathError Nat
  | .index i =>
    if i.natAbs ≤ length ∨ i.natAbs < 0x8000000000000000 then
      return min (if i < 0 then i + length else i).toNat length
    else throw .tooLarge
  | .improper => throw .unsuited

namespace Part

def pickFrom (ps : List Part) (i : Position) : Except PathError Part := do
  match ps[← indexIn ps.length i]? with
  | some p => return p
  | none => throw .outOfRange

def pick (a : Attribute) (i : Position) : Except PathError Part :=
  match a with
  | .list ps => pickFrom ps i
  | .fixed words => pickFrom (words.map word) i
  | .value => throw .unsuited

/-- The attribute that holds the end of a path, and the position in it. -/
def locate : Part → Path → Except PathError (Attribute × Position)
  | _, [] => throw .outOfRange
  | p, [(field, i)] => return (← p.get field, i)
  | p, (field, i) :: path => do locate (← pick (← p.get field) i) path

def follow (p : Part) (path : Path) : Except PathError Part := do
  let (a, i) ← p.locate path
  pick a i

def modifyList (change : Attribute → Position → Except PathError (List Part)) :
    Part → Path → Except PathError Part
  | _, [] => throw .outOfRange
  | p, [(field, i)] => do p.setList field (← change (← p.get field) i)
  | p, (field, i) :: path => do
    match ← p.get field with
    | .list ps =>
      let inner ← modifyList change (← pickFrom ps i) path
      p.setList field (ps.set (← indexIn ps.length i) inner)
    | a => modifyList change (← pick a i) path

def insertInto (donation : Part) (a : Attribute) (i : Position) : Except PathError (List Part) := do
  match a with
  | .list ps => return ps.insertIdx (← insertionIndex ps.length i) donation
  | _ => throw (.noAttribute (.other "insert"))

def deleteFrom (a : Attribute) (i : Position) : Except PathError (List Part) := do
  match a with
  | .list ps => return ps.eraseIdx (← indexIn ps.length i)
  | _ => throw .unsuited

def replaceIn (other : Part) (a : Attribute) (i : Position) : Except PathError (List Part) := do
  match a with
  | .list ps => return ps.set (← indexIn ps.length i) other
  | _ => throw .unsuited

def checkList : Attribute → Except PathError Unit
  | .list _ => return
  | _ => throw .unsuited

/-- The path with every position counted from the front. -/
def resolve : Part → Path → Except PathError (List (Field × Nat))
  | _, [] => return []
  | p, (field, i) :: path => do
    match ← p.get field with
    | .list ps => return (field, ← indexIn ps.length i) :: (← resolve (← pickFrom ps i) path)
    | _ => throw .unsuited

def replaceAt (p : Part) (target : Path) (other : Part) : Except PathError Part :=
  p.modifyList (replaceIn other) target

def swapAt (p : Part) (x y : Path) : Except PathError Part := do
  let (listX, indexX) ← p.locate x
  let (listY, indexY) ← p.locate y
  let partY ← pick listY indexY
  let partX ← pick listX indexX
  checkList listX
  checkList listY
  let placeX ← p.resolve x
  let placeY ← p.resolve y
  if placeX.isPrefixOf placeY then p.replaceAt x partY
  else if placeY.isPrefixOf placeX then p.replaceAt y partX
  else (← p.replaceAt x partY).replaceAt y partX

def tidied (p : Part) : Except PathError Node :=
  return (← p.toNode).tidy

end Part

namespace Node

def follow (module : Node) (path : Path) : Except PathError Part :=
  (Part.node module).follow path

/-- Inserts a copy of the donor immediately before the target. -/
def insert (module : Node) (target donor : Statement) : Except PathError Node := do
  let donation ← module.follow donor.path
  ((← (Part.node module).modifyList (Part.insertInto donation) target.path)).tidied

def delete (module : Node) (target : Statement) : Except PathError Node := do
  (← (Part.node module).modifyList Part.deleteFrom target.path).tidied

def swap (module : Node) (x y : Statement) : Except PathError Node := do
  (← (Part.node module).swapAt x.path y.path).tidied

/-- Exchanges a statement of one module with a statement of another. -/
def exchange (module other : Node) (mine theirs : Statement) :
    Except PathError (Node × Node) := do
  let (myList, myIndex) ← (Part.node module).locate mine.path
  let (theirList, theirIndex) ← (Part.node other).locate theirs.path
  let theirPart ← Part.pick theirList theirIndex
  let myPart ← Part.pick myList myIndex
  Part.checkList myList
  Part.checkList theirList
  let child ← (Part.node module).replaceAt mine.path theirPart
  let otherChild ← (Part.node other).replaceAt theirs.path myPart
  return (← child.tidied, ← otherChild.tidied)

end Node

end GeneticRepair.Code
