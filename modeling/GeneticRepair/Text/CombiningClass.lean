import GeneticRepair.Text.Digit
/-!
# Combining classes

The marks that combine with the character before them, each with its class (Unicode 14). Marks of
different classes may change places without changing what they mean; all other characters have the
class zero. A row of the table begins with a code point in hexadecimal digits, and goes on with the
classes of that code point and of those that follow it. A class behind which a star and a count
stand is shared by as many.
-/

namespace GeneticRepair.Text

def combiningRows : List String := [
    "300 230*21 232 220*4 232 216 220*5 202*2 220*4 202*2 220*11 1*5 220*4 230*8 240 230",
    "347 220*3 230*3 220*2", "350 230*3 220*4 230 232 220*2 230 233 234*2 233 234*2 233 230*13",
    "483 230*5",
    "591 220 230*4 220 230*3 222 220 230*6 220*6 230*2 220 230*2 222 228 230 10 11 12 13 14",
    "5b5 15 16 17 18 19*2 20 21 22", "5bf 23", "5c1 24 25", "5c4 230 220", "5c7 18",
    "610 230*8 30 31 32", "64b 27 28 29 30 31 32 33 34 230*2 220*2 230*5 220 230*2 220", "670 35",
    "6d6 230*7", "6df 230*4 220 230", "6e7 230*2", "6ea 220 230*2 220", "711 36",
    "730 230 220 230*2 220 230*2 220*3 230 220*2 230 220 230*3 220 230 220 230 220 230 220",
    "749 230*2", "7eb 230*7 220 230", "7fd 220", "816 230*4", "81b 230*9", "825 230*3",
    "829 230*5", "859 220*3", "898 230 220*3 230*4", "8ca 230*5 220*5 230*14",
    "8e3 220 230*2 220 230*2 220 230*3 220*3 27 28 29 230*3 220 230*2 220*2 230*5", "93c 7",
    "94d 9", "951 230 220 230*2", "9bc 7", "9cd 9", "9fe 230", "a3c 7", "a4d 9", "abc 7", "acd 9",
    "b3c 7", "b4d 9", "bcd 9", "c3c 7", "c4d 9", "c55 84 91", "cbc 7", "ccd 9", "d3b 9*2", "d4d 9",
    "dca 9", "e38 103*2 9", "e48 107*4", "eb8 118*2 9", "ec8 122*4", "f18 220*2", "f35 220",
    "f37 220", "f39 216", "f71 129 130", "f74 132", "f7a 130*4", "f80 130", "f82 230*2 9",
    "f86 230*2", "fc6 220", "1037 7", "1039 9*2", "108d 220", "135d 230*3", "1714 9*2", "1734 9",
    "17d2 9", "17dd 230", "18a9 228", "1939 222 230 220", "1a17 230 220", "1a60 9", "1a75 230*8",
    "1a7f 220", "1ab0 230*5 220*6 230*2 220", "1abf 220*2 230*2 220*2 230*5 220 230*4", "1b34 7",
    "1b44 9", "1b6b 230 220 230*7", "1baa 9*2", "1be6 7", "1bf2 9*2", "1c37 7", "1cd0 230*3",
    "1cd4 1 220*5 230*2 220*4 230", "1ce2 1*7", "1ced 220", "1cf4 230", "1cf8 230*2",
    "1dc0 230*2 220 230*7 220 230*2 234 214 220 202 230*37 232 228*2 220 218 230 233 220",
    "1dfe 230 220", "20d0 230*2 1*2 230*4 1*3 230*2", "20e1 230",
    "20e5 1*2 230 220 230 1*2 220*4 230", "2cef 230*3", "2d7f 9", "2de0 230*32",
    "302a 218 228 232 222 224*2", "3099 8*2", "a66f 230", "a674 230*10", "a69e 230*2",
    "a6f0 230*2", "a806 9", "a82c 9", "a8c4 9", "a8e0 230*18", "a92b 220*3", "a953 9", "a9b3 7",
    "a9c0 9", "aab0 230", "aab2 230*2 220", "aab7 230*2", "aabe 230*2", "aac1 230", "aaf6 9",
    "abed 9", "fb1e 26", "fe20 230*7 220*7 230*2", "101fd 220", "102e0 220", "10376 230*5",
    "10a0d 220", "10a0f 230", "10a38 230 1 220", "10a3f 9", "10ae5 230 220", "10d24 230*4",
    "10eab 230*2", "10f46 220*2 230*3 220 230 220*4", "10f82 230 220 230 220", "11046 9",
    "11070 9", "1107f 9", "110b9 9 7", "11100 230*3", "11133 9*2", "11173 7", "111c0 9", "111ca 7",
    "11235 9 7", "112e9 7 9", "1133b 7*2", "1134d 9", "11366 230*7", "11370 230*5", "11442 9",
    "11446 7", "1145e 230", "114c2 9 7", "115bf 9 7", "1163f 9", "116b6 9 7", "1172b 9",
    "11839 9 7", "1193d 9*2", "11943 7", "119e0 9", "11a34 9", "11a47 9", "11a99 9", "11c3f 9",
    "11d42 7", "11d44 9*2", "11d97 9", "16af0 1*5", "16b30 230*7", "16ff0 6*2", "1bc9e 1",
    "1d165 216*2 1*3", "1d16d 226 216*5", "1d17b 220*8", "1d185 230*5 220*2", "1d1aa 230*4",
    "1d242 230*3", "1e000 230*7", "1e008 230*17", "1e01b 230*7", "1e023 230*2", "1e026 230*5",
    "1e130 230*7", "1e2ae 230", "1e2ec 230*4", "1e8d0 220*7", "1e944 230*6 7"]

def readClasses : Nat → List String → List (Nat × Nat)
  | _, [] => []
  | c, word :: words =>
    match word.splitOn "*" with
    | [cls, count] =>
      let n := count.toNat?.getD 0
      (List.range n).map (fun i => (c + i, cls.toNat?.getD 0)) ++ readClasses (c + n) words
    | _ => (c, word.toNat?.getD 0) :: readClasses (c + 1) words

def combiningClasses : List (Nat × Nat) :=
  combiningRows.flatMap fun row =>
    match row.splitOn " " with
    | first :: words => readClasses (natOfHex first.toList) words
    | [] => []

def combiningClass (c : Nat) : Nat :=
  (combiningClasses.lookup c).getD 0

end GeneticRepair.Text
