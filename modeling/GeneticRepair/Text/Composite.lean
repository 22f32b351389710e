import GeneticRepair.Text.Digit
/-!
# Composed characters

The characters that are the same as a pair of others, most of them a letter and a mark (Unicode 14),
apart from Hangul syllables, which are composed by arithmetic. A row of the table begins with a code
point in hexadecimal digits, and goes on with what that code point and those that follow it stand
for.
-/

namespace GeneticRepair.Text

def compositeRows : List String := [
    "c0 41+300 41+301 41+302 41+303 41+308 41+30a",
    "c7 43+327 45+300 45+301 45+302 45+308 49+300 49+301 49+302 49+308",
    "d1 4e+303 4f+300 4f+301 4f+302 4f+303 4f+308", "d9 55+300 55+301 55+302 55+308 59+301",
    "e0 61+300 61+301 61+302 61+303 61+308 61+30a",
    "e7 63+327 65+300 65+301 65+302 65+308 69+300 69+301 69+302 69+308",
    "f1 6e+303 6f+300 6f+301 6f+302 6f+303 6f+308", "f9 75+300 75+301 75+302 75+308 79+301",
    "ff 79+308 41+304 61+304 41+306 61+306 41+328 61+328 43+301 63+301 43+302 63+302 43+307",
    "10b 63+307 43+30c 63+30c 44+30c 64+30c",
    "112 45+304 65+304 45+306 65+306 45+307 65+307 45+328 65+328 45+30c 65+30c 47+302",
    "11d 67+302 47+306 67+306 47+307 67+307 47+327 67+327 48+302 68+302",
    "128 49+303 69+303 49+304 69+304 49+306 69+306 49+328 69+328 49+307",
    "134 4a+302 6a+302 4b+327 6b+327", "139 4c+301 6c+301 4c+327 6c+327 4c+30c 6c+30c",
    "143 4e+301 6e+301 4e+327 6e+327 4e+30c 6e+30c",
    "14c 4f+304 6f+304 4f+306 6f+306 4f+30b 6f+30b",
    "154 52+301 72+301 52+327 72+327 52+30c 72+30c 53+301 73+301 53+302 73+302 53+327",
    "15f 73+327 53+30c 73+30c 54+327 74+327 54+30c 74+30c",
    "168 55+303 75+303 55+304 75+304 55+306 75+306 55+30a 75+30a 55+30b 75+30b 55+328",
    "173 75+328 57+302 77+302 59+302 79+302 59+308 5a+301 7a+301 5a+307 7a+307 5a+30c",
    "17e 7a+30c", "1a0 4f+31b 6f+31b", "1af 55+31b 75+31b",
    "1cd 41+30c 61+30c 49+30c 69+30c 4f+30c 6f+30c 55+30c 75+30c dc+304 fc+304 dc+301",
    "1d8 fc+301 dc+30c fc+30c dc+300 fc+300", "1de c4+304 e4+304 226+304 227+304 c6+304 e6+304",
    "1e6 47+30c 67+30c 4b+30c 6b+30c 4f+328 6f+328 1ea+304 1eb+304 1b7+30c 292+30c 6a+30c",
    "1f4 47+301 67+301",
    "1f8 4e+300 6e+300 c5+301 e5+301 c6+301 e6+301 d8+301 f8+301 41+30f 61+30f 41+311",
    "203 61+311 45+30f 65+30f 45+311 65+311 49+30f 69+30f 49+311 69+311 4f+30f 6f+30f",
    "20e 4f+311 6f+311 52+30f 72+30f 52+311 72+311 55+30f 75+30f 55+311 75+311 53+326",
    "219 73+326 54+326 74+326", "21e 48+30c 68+30c",
    "226 41+307 61+307 45+327 65+327 d6+304 f6+304 d5+304 f5+304 4f+307 6f+307 22e+304",
    "231 22f+304 59+304 79+304", "386 391+301", "388 395+301 397+301 399+301", "38c 39f+301",
    "38e 3a5+301 3a9+301 3ca+301", "3aa 399+308 3a5+308 3b1+301 3b5+301 3b7+301 3b9+301 3cb+301",
    "3ca 3b9+308 3c5+308 3bf+301 3c5+301 3c9+301", "3d3 3d2+301 3d2+308", "400 415+300 415+308",
    "403 413+301", "407 406+308", "40c 41a+301 418+300 423+306", "419 418+306", "439 438+306",
    "450 435+300 435+308", "453 433+301", "457 456+308", "45c 43a+301 438+300 443+306",
    "476 474+30f 475+30f", "4c1 416+306 436+306", "4d0 410+306 430+306 410+308 430+308",
    "4d6 415+306 435+306", "4da 4d8+308 4d9+308 416+308 436+308 417+308 437+308",
    "4e2 418+304 438+304 418+308 438+308 41e+308 43e+308",
    "4ea 4e8+308 4e9+308 42d+308 44d+308 423+304 443+304 423+308 443+308 423+30b 443+30b",
    "4f4 427+308 447+308", "4f8 42b+308 44b+308", "622 627+653 627+654 648+654 627+655 64a+654",
    "6c0 6d5+654", "6c2 6c1+654", "6d3 6d2+654", "929 928+93c", "931 930+93c", "934 933+93c",
    "9cb 9c7+9be 9c7+9d7", "b48 b47+b56", "b4b b47+b3e b47+b57", "b94 b92+bd7",
    "bca bc6+bbe bc7+bbe bc6+bd7", "c48 c46+c56", "cc0 cbf+cd5", "cc7 cc6+cd5 cc6+cd6",
    "cca cc6+cc2 cca+cd5", "d4a d46+d3e d47+d3e d46+d57", "dda dd9+dca",
    "ddc dd9+dcf ddc+dca dd9+ddf", "1026 1025+102e", "1b06 1b05+1b35", "1b08 1b07+1b35",
    "1b0a 1b09+1b35", "1b0c 1b0b+1b35", "1b0e 1b0d+1b35", "1b12 1b11+1b35", "1b3b 1b3a+1b35",
    "1b3d 1b3c+1b35", "1b40 1b3e+1b35 1b3f+1b35", "1b43 1b42+1b35",
    "1e00 41+325 61+325 42+307 62+307 42+323 62+323 42+331 62+331 c7+301 e7+301 44+307",
    "1e0b 64+307 44+323 64+323 44+331 64+331 44+327 64+327 44+32d 64+32d 112+300 113+300",
    "1e16 112+301 113+301 45+32d 65+32d 45+330 65+330 228+306 229+306 46+307 66+307 47+304",
    "1e21 67+304 48+307 68+307 48+323 68+323 48+308 68+308 48+327 68+327 48+32e 68+32e",
    "1e2c 49+330 69+330 cf+301 ef+301 4b+301 6b+301 4b+323 6b+323 4b+331 6b+331 4c+323",
    "1e37 6c+323 1e36+304 1e37+304 4c+331 6c+331 4c+32d 6c+32d 4d+301 6d+301 4d+307 6d+307",
    "1e42 4d+323 6d+323 4e+307 6e+307 4e+323 6e+323 4e+331 6e+331 4e+32d 6e+32d d5+301",
    "1e4d f5+301 d5+308 f5+308 14c+300 14d+300 14c+301 14d+301 50+301 70+301 50+307 70+307",
    "1e58 52+307 72+307 52+323 72+323 1e5a+304 1e5b+304 52+331 72+331 53+307 73+307 53+323",
    "1e63 73+323 15a+307 15b+307 160+307 161+307 1e62+307 1e63+307 54+307 74+307 54+323",
    "1e6d 74+323 54+331 74+331 54+32d 74+32d 55+324 75+324 55+330 75+330 55+32d 75+32d",
    "1e78 168+301 169+301 16a+308 16b+308 56+303 76+303 56+323 76+323 57+300 77+300 57+301",
    "1e83 77+301 57+308 77+308 57+307 77+307 57+323 77+323 58+307 78+307 58+308 78+308",
    "1e8e 59+307 79+307 5a+302 7a+302 5a+323 7a+323 5a+331 7a+331 68+331 74+308 77+30a",
    "1e99 79+30a", "1e9b 17f+307",
    "1ea0 41+323 61+323 41+309 61+309 c2+301 e2+301 c2+300 e2+300 c2+309 e2+309 c2+303",
    "1eab e2+303 1ea0+302 1ea1+302 102+301 103+301 102+300 103+300 102+309 103+309 102+303",
    "1eb5 103+303 1ea0+306 1ea1+306 45+323 65+323 45+309 65+309 45+303 65+303 ca+301 ea+301",
    "1ec0 ca+300 ea+300 ca+309 ea+309 ca+303 ea+303 1eb8+302 1eb9+302 49+309 69+309 49+323",
    "1ecb 69+323 4f+323 6f+323 4f+309 6f+309 d4+301 f4+301 d4+300 f4+300 d4+309 f4+309",
    "1ed6 d4+303 f4+303 1ecc+302 1ecd+302 1a0+301 1a1+301 1a0+300 1a1+300 1a0+309 1a1+309",
    "1ee0 1a0+303 1a1+303 1a0+323 1a1+323 55+323 75+323 55+309 75+309 1af+301 1b0+301",
    "1eea 1af+300 1b0+300 1af+309 1b0+309 1af+303 1b0+303 1af+323 1b0+323 59+300 79+300",
    "1ef4 59+323 79+323 59+309 79+309 59+303 79+303",
    "1f00 3b1+313 3b1+314 1f00+300 1f01+300 1f00+301 1f01+301 1f00+342 1f01+342 391+313",
    "1f09 391+314 1f08+300 1f09+300 1f08+301 1f09+301 1f08+342 1f09+342 3b5+313 3b5+314",
    "1f12 1f10+300 1f11+300 1f10+301 1f11+301",
    "1f18 395+313 395+314 1f18+300 1f19+300 1f18+301 1f19+301",
    "1f20 3b7+313 3b7+314 1f20+300 1f21+300 1f20+301 1f21+301 1f20+342 1f21+342 397+313",
    "1f29 397+314 1f28+300 1f29+300 1f28+301 1f29+301 1f28+342 1f29+342 3b9+313 3b9+314",
    "1f32 1f30+300 1f31+300 1f30+301 1f31+301 1f30+342 1f31+342 399+313 399+314 1f38+300",
    "1f3b 1f39+300 1f38+301 1f39+301 1f38+342 1f39+342 3bf+313 3bf+314 1f40+300 1f41+300",
    "1f44 1f40+301 1f41+301", "1f48 39f+313 39f+314 1f48+300 1f49+300 1f48+301 1f49+301",
    "1f50 3c5+313 3c5+314 1f50+300 1f51+300 1f50+301 1f51+301 1f50+342 1f51+342", "1f59 3a5+314",
    "1f5b 1f59+300", "1f5d 1f59+301",
    "1f5f 1f59+342 3c9+313 3c9+314 1f60+300 1f61+300 1f60+301 1f61+301 1f60+342 1f61+342",
    "1f68 3a9+313 3a9+314 1f68+300 1f69+300 1f68+301 1f69+301 1f68+342 1f69+342 3b1+300",
    "1f72 3b5+300", "1f74 3b7+300", "1f76 3b9+300", "1f78 3bf+300", "1f7a 3c5+300", "1f7c 3c9+300",
    "1f80 1f00+345 1f01+345 1f02+345 1f03+345 1f04+345 1f05+345 1f06+345 1f07+345 1f08+345",
    "1f89 1f09+345 1f0a+345 1f0b+345 1f0c+345 1f0d+345 1f0e+345 1f0f+345 1f20+345 1f21+345",
    "1f92 1f22+345 1f23+345 1f24+345 1f25+345 1f26+345 1f27+345 1f28+345 1f29+345 1f2a+345",
    "1f9b 1f2b+345 1f2c+345 1f2d+345 1f2e+345 1f2f+345 1f60+345 1f61+345 1f62+345 1f63+345",
    "1fa4 1f64+345 1f65+345 1f66+345 1f67+345 1f68+345 1f69+345 1f6a+345 1f6b+345 1f6c+345",
    "1fad 1f6d+345 1f6e+345 1f6f+345 3b1+306 3b1+304 1f70+345 3b1+345 3ac+345",
    "1fb6 3b1+342 1fb6+345 391+306 391+304 391+300", "1fbc 391+345",
    "1fc2 1f74+345 3b7+345 3ae+345", "1fc6 3b7+342 1fc6+345 395+300", "1fca 397+300",
    "1fcc 397+345", "1fd0 3b9+306 3b9+304 3ca+300", "1fd6 3b9+342 3ca+342 399+306 399+304 399+300",
    "1fe0 3c5+306 3c5+304 3cb+300", "1fe4 3c1+313 3c1+314 3c5+342 3cb+342 3a5+306 3a5+304 3a5+300",
    "1fec 3a1+314", "1ff2 1f7c+345 3c9+345 3ce+345", "1ff6 3c9+342 1ff6+345 39f+300",
    "1ffa 3a9+300", "1ffc 3a9+345", "304c 304b+3099", "304e 304d+3099", "3050 304f+3099",
    "3052 3051+3099", "3054 3053+3099", "3056 3055+3099", "3058 3057+3099", "305a 3059+3099",
    "305c 305b+3099", "305e 305d+3099", "3060 305f+3099", "3062 3061+3099", "3065 3064+3099",
    "3067 3066+3099", "3069 3068+3099", "3070 306f+3099 306f+309a", "3073 3072+3099 3072+309a",
    "3076 3075+3099 3075+309a", "3079 3078+3099 3078+309a", "307c 307b+3099 307b+309a",
    "3094 3046+3099", "309e 309d+3099", "30ac 30ab+3099", "30ae 30ad+3099", "30b0 30af+3099",
    "30b2 30b1+3099", "30b4 30b3+3099", "30b6 30b5+3099", "30b8 30b7+3099", "30ba 30b9+3099",
    "30bc 30bb+3099", "30be 30bd+3099", "30c0 30bf+3099", "30c2 30c1+3099", "30c5 30c4+3099",
    "30c7 30c6+3099", "30c9 30c8+3099", "30d0 30cf+3099 30cf+309a", "30d3 30d2+3099 30d2+309a",
    "30d6 30d5+3099 30d5+309a", "30d9 30d8+3099 30d8+309a", "30dc 30db+3099 30db+309a",
    "30f4 30a6+3099", "30f7 30ef+3099 30f0+3099 30f1+3099 30f2+3099", "30fe 30fd+3099",
    "1109a 11099+110ba", "1109c 1109b+110ba", "110ab 110a5+110ba", "1112e 11131+11127 11132+11127",
    "1134b 11347+1133e 11347+11357", "114bb 114b9+114ba 114b9+114b0", "114be 114b9+114bd",
    "115ba 115b8+115af 115b9+115af", "11938 11935+11930"]

def codesOf (word : String) : List Nat :=
  (word.splitOn "+").map fun w => natOfHex w.toList

def readRow (row : String) : List (Nat × List Nat) :=
  match row.splitOn " " with
  | first :: words => words.zipIdx.map fun (w, i) => (natOfHex first.toList + i, codesOf w)
  | [] => []

def composites : List (Nat × List Nat) :=
  compositeRows.flatMap readRow

/-! Hangul syllables: an initial consonant, a vowel, and maybe a final consonant. -/

namespace Hangul

def syllable : Nat := 0xac00
def initial : Nat := 0x1100
def vowel : Nat := 0x1161
def final : Nat := 0x11a7
def initials : Nat := 19
def vowels : Nat := 21
def finals : Nat := 28

def decompose? (c : Nat) : Option (List Nat) :=
  let i := c - syllable
  if syllable ≤ c && i < initials * vowels * finals then
    let consonant := initial + i / (vowels * finals)
    let v := vowel + i % (vowels * finals) / finals
    some (if i % finals == 0 then [consonant, v] else [consonant, v, final + i % finals])
  else none

def compose? (a b : Nat) : Option Nat :=
  if initial ≤ a && a < initial + initials && vowel ≤ b && b < vowel + vowels then
    some (syllable + ((a - initial) * vowels + (b - vowel)) * finals)
  else if syllable ≤ a && a < syllable + initials * vowels * finals &&
      (a - syllable) % finals == 0 && final < b && b < final + finals then
    some (a + (b - final))
  else none

end Hangul

def compose? (a b : Nat) : Option Nat :=
  match Hangul.compose? a b with
  | some c => some c
  | none => (composites.find? (·.2 == [a, b])).map (·.1)

end GeneticRepair.Text
