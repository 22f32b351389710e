import GeneticRepair.Text.Digit
/-!
# SHA-1

The digest of a sequence of bytes: the message is padded to blocks of 64 bytes, and each block takes
the state of five words through eighty rounds.
-/

namespace GeneticRepair.Sha1

structure State where
  a : UInt32
  b : UInt32
  c : UInt32
  d : UInt32
  e : UInt32

def initial : State :=
  ⟨0x67452301, 0xefcdab89, 0x98badcfe, 0x10325476, 0xc3d2e1f0⟩

def rotate (n : UInt32) (x : UInt32) : UInt32 :=
  (x <<< n) ||| (x >>> (32 - n))

def bigEndian (width n : Nat) : List UInt8 :=
  (List.range width).reverse.map fun i => UInt8.ofNat (n >>> (8 * i))

/-- The message, a bit that marks its end, zeros, and its length in bits. -/
def padded (message : List UInt8) : List UInt8 :=
  let n := message.length
  message ++ [0x80] ++ List.replicate ((55 + 64 - n % 64) % 64) 0 ++ bigEndian 8 (8 * n)

def words : List UInt8 → List UInt32
  | w :: x :: y :: z :: bytes =>
    ((w.toUInt32 <<< 24) ||| (x.toUInt32 <<< 16) ||| (y.toUInt32 <<< 8) ||| z.toUInt32) ::
      words bytes
  | _ => []

def schedule (block : List UInt32) : Array UInt32 :=
  (List.range' 16 64).foldl (fun w i =>
    w.push (rotate 1 (w.getD (i - 3) 0 ^^^ w.getD (i - 8) 0 ^^^ w.getD (i - 14) 0 ^^^
      w.getD (i - 16) 0))) block.toArray

def mixed (i : Nat) (s : State) : UInt32 :=
  if i < 20 then ((s.b &&& s.c) ||| (~~~s.b &&& s.d)) + 0x5a827999
  else if i < 40 then (s.b ^^^ s.c ^^^ s.d) + 0x6ed9eba1
  else if i < 60 then ((s.b &&& s.c) ||| (s.b &&& s.d) ||| (s.c &&& s.d)) + 0x8f1bbcdc
  else (s.b ^^^ s.c ^^^ s.d) + 0xca62c1d6

def round (w : Array UInt32) (s : State) (i : Nat) : State :=
  ⟨rotate 5 s.a + mixed i s + s.e + w.getD i 0, s.a, rotate 30 s.b, s.c, s.d⟩

def absorb (s : State) (block : List UInt32) : State :=
  let t := (List.range 80).foldl (round (schedule block)) s
  ⟨s.a + t.a, s.b + t.b, s.c + t.c, s.d + t.d, s.e + t.e⟩

def absorbAll : Nat → List UInt32 → State → State
  | 0, _, s => s
  | n + 1, ws, s => absorbAll n (ws.drop 16) (absorb s (ws.take 16))

def digest (message : List UInt8) : State :=
  let ws := words (padded message)
  absorbAll (ws.length / 16) ws initial

def hex (message : List UInt8) : String :=
  let s := digest message
  String.ofList ([s.a, s.b, s.c, s.d, s.e].flatMap fun w => Text.hexDigits 8 w.toNat)

end GeneticRepair.Sha1
