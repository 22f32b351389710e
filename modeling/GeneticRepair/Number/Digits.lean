import GeneticRepair.Text.Blank
import GeneticRepair.Text.Digit

/-!
# Numbers from digits

An integer in text may be surrounded by blanks and signed, its digits may be of any script, and single
underscores may stand between digits. At most 4300 digits are read. Decimal digits and a scale stand
for the float nearest to them; numbers beyond all floats, in either direction, are recognised by the
place of their leading digit.
-/

namespace GeneticRepair.Number

open GeneticRepair.Text

/-- Reads digits with single underscores between them; `some` only if all is read. -/
def digitValues : List Char → Option (List Nat)
  | [] => none
  | [c] => (decimalValue? c).map ([·])
  | c :: '_' :: cs => do return (← decimalValue? c) :: (← digitValues cs)
  | c :: cs => do return (← decimalValue? c) :: (← digitValues cs)

def ofDigits (base : Nat) (ds : List Nat) : Nat :=
  ds.foldl (fun n d => n * base + d) 0

def readNat? (cs : List Char) : Option Nat := do
  let ds ← digitValues cs
  if ds.length ≤ 4300 then some (ofDigits 10 ds) else none

def readSigned? : List Char → Option Int
  | '-' :: cs => (readNat? cs).map fun n => -(n : Int)
  | '+' :: cs => (readNat? cs).map Int.ofNat
  | cs => (readNat? cs).map Int.ofNat

/-- Whether a character may surround an integer. The information separators of ASCII may not, though
they are blank otherwise. -/
def isMargin (c : Char) : Bool :=
  isBlankChar c && !(0x1c ≤ c.toNat && c.toNat ≤ 0x1f)

def readInt? (s : String) : Option Int :=
  readSigned? ((s.toList.dropWhile isMargin).reverse.dropWhile isMargin).reverse

/-! ## Floats -/

def isDigit (c : Char) : Bool :=
  '0' ≤ c && c ≤ '9'

def digitValue (c : Char) : Nat :=
  c.toNat - '0'.toNat

def floatOfDigits (ds : List Nat) (scale : Int) : Float :=
  let significant := ds.dropWhile (· == 0)
  let leading := scale + significant.length
  if significant.isEmpty || leading < -400 then 0.0
  else if 400 < leading then Float.ofScientific 1 false 400
  else Float.ofScientific (ofDigits 10 significant) (scale < 0) scale.natAbs

end GeneticRepair.Number
