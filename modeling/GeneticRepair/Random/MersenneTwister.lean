import GeneticRepair.Random.Source
/-!
# The Mersenne twister

The generator MT19937: 624 words of 32 bits, of which each output tempers one, and which are all
renewed when the last has been used. A seed is any integer; the 32-bit words of its absolute value,
the lowest first, initialise the state.
-/

namespace GeneticRepair

structure MersenneTwister where
  words : Array UInt32
  /-- The index of the next word to use. -/
  next : Nat

namespace MersenneTwister

def size : Nat := 624

def shift : Nat := 397

def wordAt (a : Array UInt32) (i : Nat) : UInt32 :=
  a.getD i 0

def diffuse (x : UInt32) : UInt32 :=
  x ^^^ (x >>> 30)

def spread (seed : UInt32) : Array UInt32 :=
  (List.range (size - 1)).foldl (fun a i =>
    a.push (1812433253 * diffuse (wordAt a i) + UInt32.ofNat (i + 1))) #[seed]

def advance (a : Array UInt32) (i : Nat) (x : UInt32) : Array UInt32 × Nat :=
  let a := a.setIfInBounds i x
  if i + 1 < size then (a, i + 1) else (a.setIfInBounds 0 (wordAt a (size - 1)), 1)

def mixKey (key : Array UInt32) (a : Array UInt32) : Array UInt32 × Nat :=
  (List.range (max size key.size)).foldl (fun (a, i) k =>
    let j := k % key.size
    advance a i ((wordAt a i ^^^ (diffuse (wordAt a (i - 1)) * 1664525)) + wordAt key j +
      UInt32.ofNat j)) (a, 1)

def mixIndices (a : Array UInt32) (i : Nat) : Array UInt32 :=
  ((List.range (size - 1)).foldl (fun (a, i) _ =>
    advance a i ((wordAt a i ^^^ (diffuse (wordAt a (i - 1)) * 1566083941)) - UInt32.ofNat i))
    (a, i)).1

def ofKey (key : Array UInt32) : MersenneTwister :=
  let (a, i) := mixKey key (spread 19650218)
  ⟨(mixIndices a i).setIfInBounds 0 0x80000000, size⟩

def keyOf (n : Nat) : List UInt32 :=
  if h : n < 0x100000000 then [UInt32.ofNat n]
  else UInt32.ofNat (n % 0x100000000) :: keyOf (n / 0x100000000)
termination_by n
decreasing_by omega

def ofSeed (seed : Int) : MersenneTwister :=
  ofKey (keyOf seed.natAbs).toArray

def twisted (x following distant : UInt32) : UInt32 :=
  let y := (x &&& 0x80000000) ||| (following &&& 0x7fffffff)
  distant ^^^ (y >>> 1) ^^^ (if y &&& 1 == 0 then 0 else 0x9908b0df)

def renew (a : Array UInt32) : Array UInt32 :=
  (List.range size).foldl (fun a k =>
    a.setIfInBounds k
      (twisted (wordAt a k) (wordAt a ((k + 1) % size)) (wordAt a ((k + shift) % size)))) a

def temper (y : UInt32) : UInt32 :=
  let y := y ^^^ (y >>> 11)
  let y := y ^^^ ((y <<< 7) &&& 0x9d2c5680)
  let y := y ^^^ ((y <<< 15) &&& 0xefc60000)
  y ^^^ (y >>> 18)

def word : StateM MersenneTwister UInt32 :=
  fun g =>
    if g.next < size then (temper (wordAt g.words g.next), { g with next := g.next + 1 })
    else
      let words := renew g.words
      (temper (wordAt words 0), ⟨words, 1⟩)

def bits (k : Nat) : StateM MersenneTwister Nat :=
  return (← word).toNat / Nat.pow 2 (32 - k)

/-- A number of the unit interval: 27 bits of one output above 26 bits of the next. -/
def unit : StateM MersenneTwister Nat := do
  let high ← bits 27
  let low ← bits 26
  return high * 0x4000000 + low

/-- How often bits are drawn that may give no number below the bound. -/
def attempts : Nat := 1000

def drawBelow (k n : Nat) : Nat → StateM MersenneTwister Nat
  | 0 => return 0
  | fuel + 1 => do
    let x ← bits k
    if x < n then return x else drawBelow k n fuel

def below (n : Nat) : StateM MersenneTwister Nat :=
  drawBelow (n.log2 + 1) n attempts

theorem bits_lt (k : Nat) (h : k ≤ 32) (g : MersenneTwister) : (bits k g).1 < Nat.pow 2 k := by
  have hw : ∀ w : UInt32, w.toNat / Nat.pow 2 (32 - k) < Nat.pow 2 k := by
    intro w
    simp only [Nat.pow_eq]
    rw [Nat.div_lt_iff_lt_mul (Nat.two_pow_pos _), ← Nat.pow_add]
    rw [show k + (32 - k) = 32 by omega]
    exact w.toNat_lt
  exact hw _

theorem drawBelow_lt (k n : Nat) (h : 0 < n) (fuel : Nat) (g : MersenneTwister) :
    (drawBelow k n fuel g).1 < n := by
  induction fuel generalizing g with
  | zero => exact h
  | succ fuel ih =>
    simp only [drawBelow, bind, StateT.bind]
    split
    split
    · assumption
    · exact ih _

theorem unit_lt (g : MersenneTwister) : (unit g).1 < unitSteps := by
  have high := bits_lt 27 (by omega) g
  have low := bits_lt 26 (by omega) (bits 27 g).2
  show (bits 27 g).1 * 0x4000000 + (bits 26 (bits 27 g).2).1 < 0x20000000000000
  simp only [Nat.pow_eq] at high low
  omega

instance : RandomSource MersenneTwister where
  unit := unit
  below := below
  unit_lt := unit_lt
  below_lt n g h := drawBelow_lt _ n h _ g

end MersenneTwister

end GeneticRepair
