/-!
# Lines and source files

A text is cut into lines at every line boundary: line feed, carriage return (alone or before a line
feed), vertical tab, form feed, the information separators, next line, and the line and paragraph
separators. A boundary ends a line, so a final one starts no new line. Text files are read with
every spelling of a newline taken as a line feed, and written with each line ended by one.

A source file is text in UTF-8. A file that is not valid UTF-8 is read as Latin-1, in which every
byte is the character of the same number.
-/

namespace GeneticRepair.Text

def isLineBoundary (c : Char) : Bool :=
  let n := c.toNat
  (0xa ≤ n && n ≤ 0xd) || (0x1c ≤ n && n ≤ 0x1e) || n == 0x85 || n == 0x2028 || n == 0x2029

def consChar (c : Char) : List (List Char) → List (List Char)
  | [] => [[c]]
  | line :: lines => (c :: line) :: lines

def splitChars : List Char → List (List Char)
  | [] => []
  | '\r' :: '\n' :: cs => [] :: splitChars cs
  | c :: cs => if isLineBoundary c then [] :: splitChars cs else consChar c (splitChars cs)

def splitLines (s : String) : List String :=
  (splitChars s.toList).map String.ofList

/-- Takes `\r\n` and `\r` as a line feed. -/
def unifyNewlines : List Char → List Char
  | [] => []
  | '\r' :: '\n' :: cs => '\n' :: unifyNewlines cs
  | c :: cs => (if c == '\r' then '\n' else c) :: unifyNewlines cs

def joinLines (lines : List String) : String :=
  String.intercalate "\n" lines

/-- The text of a file that holds the given lines, each one ended by a line feed. -/
def endLines (lines : List String) : String :=
  String.join (lines.map (· ++ "\n"))

def latin1 (bytes : ByteArray) : List Char :=
  bytes.toList.map fun b => Char.ofNat b.toNat

def decodeSource (bytes : ByteArray) : List Char :=
  match String.fromUTF8? bytes with
  | some s => s.toList
  | none => latin1 bytes

def readSource (bytes : ByteArray) : String :=
  String.ofList (unifyNewlines (decodeSource bytes))

/-- The lines of a source file, without their terminators. -/
def readLines (bytes : ByteArray) : List String :=
  splitLines (readSource bytes)

/-- The content of a source file with the given lines. -/
def writeLines (lines : List String) : ByteArray :=
  (endLines lines).toUTF8

end GeneticRepair.Text
