/-!
# Blank text

The characters that count as whitespace at the ends of a text, and what is left when they are
removed. A line is blank when it holds nothing else.
-/

namespace GeneticRepair.Text

def isBlankCode (c : Nat) : Bool :=
  (0x9 ≤ c && c ≤ 0xd) || (0x1c ≤ c && c ≤ 0x20) || c == 0x85 || c == 0xa0 || c == 0x1680 ||
    (0x2000 ≤ c && c ≤ 0x200a) || c == 0x2028 || c == 0x2029 || c == 0x202f || c == 0x205f ||
    c == 0x3000

def isBlankChar (c : Char) : Bool :=
  isBlankCode c.toNat

def isBlank (s : String) : Bool :=
  s.toList.all isBlankChar

def trimStart (cs : List Char) : List Char :=
  cs.dropWhile isBlankChar

def trimEnd (cs : List Char) : List Char :=
  (trimStart cs.reverse).reverse

def trim (s : String) : String :=
  String.ofList (trimEnd (trimStart s.toList))

def nonblank (lines : List String) : List String :=
  lines.filter (!isBlank ·)

theorem mem_nonblank {line : String} {lines : List String} :
    line ∈ nonblank lines ↔ line ∈ lines ∧ isBlank line = false := by
  simp [nonblank]

end GeneticRepair.Text
