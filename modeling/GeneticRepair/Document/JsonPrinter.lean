import GeneticRepair.Document.Value
/-!
# Writing JSON

Documents are written on one line, with a blank after each comma and colon, or on many lines with
two more blanks of indentation for each level. All text is ASCII; other characters are escaped.
-/

namespace GeneticRepair.Json

open GeneticRepair.Text (hexDigits)

def unitEscape (n : Nat) : List Char :=
  '\\' :: 'u' :: hexDigits 4 n

/-- A character within quotes; beyond the basic plane it is written as two halves. -/
def quoteChar (c : Char) : List Char :=
  let n := c.toNat
  match c with
  | '"' => ['\\', '"']
  | '\\' => ['\\', '\\']
  | '\n' => ['\\', 'n']
  | '\r' => ['\\', 'r']
  | '\t' => ['\\', 't']
  | '\x08' => ['\\', 'b']
  | '\x0c' => ['\\', 'f']
  | _ =>
    if 0x20 ≤ n && n < 0x7f then [c]
    else if n < 0x10000 then unitEscape n
    else unitEscape (0xd800 + (n - 0x10000) / 0x400) ++
      unitEscape (0xdc00 + (n - 0x10000) % 0x400)

def quote (s : String) : String :=
  "\"" ++ String.ofList (s.toList.flatMap quoteChar) ++ "\""

def floatStyle : Number.FloatStyle :=
  ⟨true, "Infinity", "NaN"⟩

def atom : Value → String
  | .null => "null"
  | .bool b => if b then "true" else "false"
  | .int n => toString n
  | .float x => Number.floatText floatStyle x
  | .text s => quote s
  | .list _ => "[]"
  | .map _ => "\x7b\x7d"

mutual

def compact : Value → String
  | .list vs => "[" ++ ", ".intercalate (compactItems vs) ++ "]"
  | .map es => "\x7b" ++ ", ".intercalate (compactEntries es) ++ "\x7d"
  | v => atom v

def compactItems : List Value → List String
  | [] => []
  | v :: vs => compact v :: compactItems vs

def compactEntries : List (String × Value) → List String
  | [] => []
  | (k, v) :: es => (quote k ++ ": " ++ compact v) :: compactEntries es

end

def newline (depth : Nat) : String :=
  "\n" ++ String.ofList (List.replicate (2 * depth) ' ')

def spread (depth : Nat) (left right : String) (parts : List String) : String :=
  left ++ newline (depth + 1) ++ ("," ++ newline (depth + 1)).intercalate parts ++ newline depth ++
    right

mutual

def indented (depth : Nat) : Value → String
  | .list (v :: vs) => spread depth "[" "]" (indentedItems (depth + 1) (v :: vs))
  | .map (e :: es) => spread depth "\x7b" "\x7d" (indentedEntries (depth + 1) (e :: es))
  | v => atom v

def indentedItems (depth : Nat) : List Value → List String
  | [] => []
  | v :: vs => indented depth v :: indentedItems depth vs

def indentedEntries (depth : Nat) : List (String × Value) → List String
  | [] => []
  | (k, v) :: es => (quote k ++ ": " ++ indented depth v) :: indentedEntries depth es

end

end GeneticRepair.Json
