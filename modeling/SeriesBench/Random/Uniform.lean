import SeriesBench.Random.Generator

set_option autoImplicit false

namespace SeriesBench.Random

inductive Width where
  | half
  | full
deriving DecidableEq, Repr

namespace Width

def bits : Width → Nat
  | .half => 32
  | .full => 64

def size : Width → Nat
  | .half => UInt32.size
  | .full => UInt64.size

def draw : Width → Draw Nat
  | .half => return (← drawWord).toNat / UInt32.size
  | .full => return (← drawWord).toNat

end Width

/-- The upper part of a draw whose lower part is at most `bound`. A bound that half of all words
meet is missed by as many tries as there are with a chance of `2 ^ -256`, and then the last one
counts. -/
def drawWithin (width : Width) (bound size : Nat) : Nat → Draw Nat
  | 0 => return (← width.draw) * size / width.size
  | tries + 1 => do
    let product := (← width.draw) * size
    if product % width.size ≤ bound then return product / width.size
    else drawWithin width bound size tries

def tries : Nat := 256

def shiftBound (width : Width) (size : Nat) : Nat :=
  (size <<< (width.bits - (size.log2 + 1))) - 1

def multipleBound (width : Width) (size : Nat) : Nat :=
  width.size - 1 - width.size % size

def drawBelow (width : Width) (size : Nat) : Draw Nat :=
  drawWithin width (shiftBound width size) size tries

def pick {α : Type} [Inhabited α] (width : Width) (items : Array α) : Draw α :=
  return items.getD (← drawBelow width items.size) default

def maxFraction : Float := 1 - 1 / 4503599627370496

def drawFraction : Draw Float := return ((← drawWord) >>> 12).toFloat / 4503599627370496

/-- The scale of a range of floating-point numbers, made smaller until the range's end is not
exceeded. -/
def fitScale (low high : Float) : Nat → Float → Float
  | 0, scale => scale
  | steps + 1, scale =>
    if scale * maxFraction + low ≤ high then scale
    else fitScale low high steps (Float.ofBits (scale.toBits - 1))

def drawReal (low high : Float) : Draw Float :=
  return (← drawFraction) * fitScale low high 64 ((high - low) / maxFraction) + low

end SeriesBench.Random
