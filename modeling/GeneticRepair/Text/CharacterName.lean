import GeneticRepair.Text.CodePointSet
import GeneticRepair.Text.Composite
import GeneticRepair.Text.LetterNames
import GeneticRepair.Text.PictureNames
import GeneticRepair.Text.SymbolNames
/-!
# Characters by name

The characters that have a name: those of the tables, under their names and under other names that
are in use for them, and the ideographs and the Hangul syllables, whose names follow a rule. Capital
and small letters count alike, except in the names that follow a rule.
-/

namespace GeneticRepair.Text

def otherNames : List String := [
    "#0/0NULL/#0/0NUL/0START OF HEADING/#1/0SOH/0START OF TEXT/#2/0STX/0END OF TEXT/#3/0ETX",
    "0END OF TRANSMISSION/#4/0EOT/0ENQUIRY/#5/0ENQ/0ACKNOWLEDGE/#6/0ACK/0ALERT/#7/0BEL/0BACKSPACE",
    "#8/0BS/0CHARACTER TABULATION/#9/0HORIZONTAL TABULATION/#9/0HT/#9/0TAB/0LINE FEED/#a",
    "0NEW LINE/#a/0END OF LINE/#a/0EOL/#a/0LF/#a/0NL/0LINE TABULATION/#b/0VERTICAL TABULATION/#b",
    "0VT/0FORM FEED/#c/0FF/0CARRIAGE RETURN/#d/0CR/0SHIFT OUT/#e/0LOCKING-SHIFT ONE/#e/0SO",
    "0SHIFT IN/#f/0LOCKING-SHIFT ZERO/#f/0SI/0DATA LINK ESCAPE/#10/0DLE/0DEVICE CONTROL ONE/#11",
    "0DC1/0DEVICE CONTROL TWO/#12/0DC2/0DEVICE CONTROL THREE/#13/0DC3/0DEVICE CONTROL FOUR/#14",
    "0DC4/0NEGATIVE ACKNOWLEDGE/#15/0NAK/0SYNCHRONOUS IDLE/#16/0SYN/0END OF TRANSMISSION BLOCK",
    "#17/0ETB/0CANCEL/#18/0CAN/0END OF MEDIUM/#19/0EOM/0SUBSTITUTE/#1a/0SUB/0ESCAPE/#1b/0ESC",
    "0INFORMATION SEPARATOR FOUR/#1c/0FILE SEPARATOR/#1c/0FS/0INFORMATION SEPARATOR THREE/#1d",
    "0GROUP SEPARATOR/#1d/0GS/0INFORMATION SEPARATOR TWO/#1e/0RECORD SEPARATOR/#1e/0RS",
    "0INFORMATION SEPARATOR ONE/#1f/0UNIT SEPARATOR/#1f/0US/0SP/#7f/0DELETE/#7f/0DEL",
    "0PADDING CHARACTER/#80/0PAD/0HIGH OCTET PRESET/#81/0HOP/0BREAK PERMITTED HERE/#82/0BPH",
    "0NO BREAK HERE/#83/0NBH/0INDEX/#84/0IND/0NEXT LINE/#85/0NEL/0START OF SELECTED AREA/#86/0SSA",
    "0END OF SELECTED AREA/#87/0ESA/0CHARACTER TABULATION SET/#88/0HORIZONTAL TABULATION SET/#88",
    "0HTS/0CHARACTER TABULATION WITH JUSTIFICATION/#89/0HORIZONTAL TABULATION WITH JUSTIFICATION",
    "#89/0HTJ/0LINE TABULATION SET/#8a/0VERTICAL TABULATION SET/#8a/0VTS/0PARTIAL LINE FORWARD",
    "#8b/2DOWN/#8b/0PLD/0PARTIAL LINE BACKWARD/#8c/2UP/#8c/0PLU/0REVERSE LINE FEED/#8d/1INDEX/#8d",
    "0RI/0SINGLE SHIFT TWO/#8e/0SINGLE-SHIFT-2/#8e/0SS2/0SINGLE SHIFT THREE/#8f/0SINGLE-SHIFT-3",
    "#8f/0SS3/0DEVICE CONTROL STRING/#90/0DCS/0PRIVATE USE ONE/#91/1USE-1/#91/0PU1",
    "0PRIVATE USE TWO/#92/1USE-2/#92/0PU2/0SET TRANSMIT STATE/#93/0STS/0CANCEL CHARACTER/#94/0CCH",
    "0MESSAGE WAITING/#95/0MW/0START OF GUARDED AREA/#96/2PROTECTED AREA/#96/0SPA",
    "0END OF GUARDED AREA/#97/2PROTECTED AREA/#97/0EPA/0START OF STRING/#98/0SOS",
    "0SINGLE GRAPHIC CHARACTER INTRODUCER/#99/0SGC/0SINGLE CHARACTER INTRODUCER/#9a/0SCI",
    "0CONTROL SEQUENCE INTRODUCER/#9b/0CSI/0STRING TERMINATOR/#9c/0ST/0OPERATING SYSTEM COMMAND",
    "#9d/0OSC/0PRIVACY MESSAGE/#9e/0PM/0APPLICATION PROGRAM COMMAND/#9f/0APC/0NBSP/#ad/0SHY/#1a2",
    "0LATIN CAPITAL LETTER GHA/1SMALL LETTER GHA/#34f/0CGJ/#61c/0ALM/#200b/0ZWSP/0ZWNJ/0ZWJ/0LRM",
    "0RLM/#202a/0LRE/0RLE/0PDF/0LRO/0RLO/0NNBSP/#205f/0MMSP/0WJ/#2066/0LRI/0RLI/0FSI/0PDI/#2118",
    "0WEIERSTRASS ELLIPTIC FUNCTION/#2448/0MICR ON US SYMBOL/1DASH SYMBOL/#2b7a",
    "0LEFTWARDS TRIANGLE-HEADED ARROW WITH DOUBLE VERTICAL STROKE/#2b7c",
    "0RIGHTWARDS TRIANGLE-HEADED ARROW WITH DOUBLE VERTICAL STROKE/#fe18",
    "0PRESENTATION FORM FOR VERTICAL RIGHT WHITE LENTICULAR BRACKET"]

/-- The code point whose name consists of the given words. `next` is the code point of the next
name, `last` the words of the name before it. -/
def findName (words : List String) (next : Nat) (last : List String) : List String → Option Nat
  | [] => none
  | entry :: entries =>
    match entry.toList with
    | '#' :: digits => findName words (natOfHex digits) last entries
    | shared :: rest =>
      let found := last.take (shared.toNat - 48) ++ (String.ofList rest).splitOn " "
      if found == words then some next else findName words (next + 1) found entries
    | [] => findName words next last entries

def findRow (name : String) (rows : List String) : Option Nat :=
  findName (name.splitOn " ") 0 [] (rows.flatMap (·.splitOn "/"))

def behindStart? (start : String) (cs : List Char) : Option (List Char) :=
  if start.toList.isPrefixOf cs then some (cs.drop start.length) else none

def unifiedIdeographs : CodePointSet where
  bounds := [0x3400, 0x4dc0, 0x4e00, 0xa000, 0x20000, 0x2a6e0, 0x2a700, 0x2b739, 0x2b740, 0x2b81e,
    0x2b820, 0x2cea2, 0x2ceb0, 0x2ebe1, 0x30000, 0x3134b]

def compatibleIdeographs : CodePointSet where
  bounds := [0xf900, 0xfa6e, 0xfa70, 0xfada, 0x2f800, 0x2fa1e]

/-- An ideograph is named by its code point, in four or five digits. -/
def ideograph? (set : CodePointSet) (digits : List Char) : Option Nat :=
  let c := natOfHex digits
  if (digits.length == 4 || digits.length == 5) && digits.all (fun d => d.isDigit ||
      ('A' ≤ d && d ≤ 'F')) && set.contains c then some c
  else none

/-! The names of the letters that a syllable is made of. -/

def initialNames : List String :=
  ["G", "GG", "N", "D", "DD", "R", "M", "B", "BB", "S", "SS", "", "J", "JJ", "C", "K", "T", "P",
    "H"]

def vowelNames : List String :=
  ["A", "AE", "YA", "YAE", "EO", "E", "YEO", "YE", "O", "WA", "WAE", "OE", "YO", "U", "WEO", "WE",
    "WI", "YU", "EU", "YI", "I"]

def finalNames : List String :=
  ["", "G", "GG", "GS", "N", "NJ", "NH", "D", "L", "LG", "LM", "LB", "LS", "LT", "LP", "LH", "M",
    "B", "BS", "S", "SS", "NG", "J", "C", "K", "T", "P", "H"]

def longestStart (names : List String) (cs : List Char) : Option (Nat × List Char) :=
  names.zipIdx.foldl (fun best (name, i) =>
    match behindStart? name cs, best with
    | some rest, some (j, shorter) =>
      if rest.length < shorter.length then some (i, rest) else some (j, shorter)
    | some rest, none => some (i, rest)
    | none, best => best) none

def syllable? (cs : List Char) : Option Nat := do
  let (i, cs) ← longestStart initialNames cs
  let (v, cs) ← longestStart vowelNames cs
  let (f, cs) ← longestStart finalNames cs
  if cs.isEmpty then some (Hangul.syllable + (i * Hangul.vowels + v) * Hangul.finals + f) else none

def characterNamed? (name : String) : Option Nat :=
  let upper := name.map Char.toUpper
  match behindStart? "CJK UNIFIED IDEOGRAPH-" name.toList,
    behindStart? "HANGUL SYLLABLE " name.toList,
    behindStart? "CJK COMPATIBILITY IDEOGRAPH-" upper.toList with
  | some digits, _, _ => ideograph? unifiedIdeographs digits
  | none, some letters, _ => syllable? letters
  | none, none, some digits => ideograph? compatibleIdeographs digits
  | none, none, none =>
    [letterNames, symbolNames, pictureNames, otherNames].findSome? (findRow upper)

end GeneticRepair.Text
