set_option autoImplicit false

/-!
# Random words

The generator xoshiro256++, seeded from a single word by PCG32. Equal seeds give equal words.
-/
namespace SeriesBench.Random

structure Generator where
  a : UInt64
  b : UInt64
  c : UInt64
  d : UInt64
deriving DecidableEq, Repr

abbrev Draw (α : Type) := StateM Generator α

def rotateLeft (x : UInt64) (k : UInt64) : UInt64 := (x <<< k) ||| (x >>> (64 - k))

def rotateRight32 (x : UInt32) (k : UInt32) : UInt32 := (x >>> k) ||| (x <<< ((32 - k) % 32))

def seedStep (state : UInt64) : UInt64 := state * 6364136223846793005 + 11634580027462260723

def seedWord (state : UInt64) : UInt32 :=
  rotateRight32 (((state >>> 18) ^^^ state) >>> 27).toUInt32 (state >>> 59).toUInt32

def seedPair (state : UInt64) : UInt64 × UInt64 :=
  let first := seedStep state
  let second := seedStep first
  ((seedWord first).toUInt64 ||| ((seedWord second).toUInt64 <<< 32), second)

namespace Generator

def ofSeed (seed : UInt64) : Generator :=
  let (a, state) := seedPair seed
  let (b, state) := seedPair state
  let (c, state) := seedPair state
  let (d, _) := seedPair state
  ⟨a, b, c, d⟩

def word (g : Generator) : UInt64 := rotateLeft (g.a + g.d) 23 + g.a

def next (g : Generator) : Generator :=
  let c := g.c ^^^ g.a
  let d := g.d ^^^ g.b
  { a := g.a ^^^ d
    b := g.b ^^^ c
    c := c ^^^ (g.b <<< 17)
    d := rotateLeft d 45 }

end Generator

def drawWord : Draw UInt64 := modifyGet fun g => (g.word, g.next)

end SeriesBench.Random
