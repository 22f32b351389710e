import GeneticRepair.Text.Digit
import GeneticRepair.Text.Printable
/-!
# Quoted text

A text in quotes shows every character: the backslash, the quote and the characters that are not
printable are escaped. Single quotes are used, unless the text holds a single quote and no double
quote. A text is given by its code points, so that lone surrogates can be quoted too.
-/

namespace GeneticRepair.Text

abbrev CodePoint := Nat

def codePoints (s : String) : List CodePoint :=
  s.toList.map Char.toNat

def escapeCode (c : CodePoint) : List Char :=
  if c == 0x5c then ['\\', '\\']
  else if c == 0x9 then ['\\', 't']
  else if c == 0xa then ['\\', 'n']
  else if c == 0xd then ['\\', 'r']
  else if c ≤ 0xff then '\\' :: 'x' :: hexDigits 2 c
  else if c ≤ 0xffff then '\\' :: 'u' :: hexDigits 4 c
  else '\\' :: 'U' :: hexDigits 8 c

def singleQuote : CodePoint := 0x27

def doubleQuote : CodePoint := 0x22

def chooseQuote (cs : List CodePoint) : CodePoint :=
  if cs.contains singleQuote && !cs.contains doubleQuote then doubleQuote else singleQuote

def quoteCode (quote c : CodePoint) : List Char :=
  if c == quote then ['\\', Char.ofNat c]
  else if c == 0x5c || !isPrintable c then escapeCode c
  else [Char.ofNat c]

def quotedBody (cs : List CodePoint) : String :=
  String.ofList (cs.flatMap (quoteCode (chooseQuote cs)))

def quoted (cs : List CodePoint) : String :=
  let quote := String.singleton (Char.ofNat (chooseQuote cs))
  quote ++ quotedBody cs ++ quote

def quoteByte (quote c : CodePoint) : List Char :=
  if c == quote then ['\\', Char.ofNat c]
  else if c == 0x5c || c < 0x20 || 0x7f ≤ c then escapeCode c
  else [Char.ofNat c]

def quotedBytes (bs : List UInt8) : String :=
  let cs := bs.map UInt8.toNat
  let quote := chooseQuote cs
  let mark := String.singleton (Char.ofNat quote)
  "b" ++ mark ++ String.ofList (cs.flatMap (quoteByte quote)) ++ mark

def quotedString (s : String) : String :=
  quoted (codePoints s)

end GeneticRepair.Text
