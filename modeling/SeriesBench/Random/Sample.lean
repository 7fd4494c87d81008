import SeriesBench.Random.Uniform
import Std.Data.HashSet

set_option autoImplicit false

namespace SeriesBench.Random

def shuffleFront : Nat → Nat → Array Nat → Draw (Array Nat)
  | 0, _, xs => pure xs
  | count + 1, i, xs => do
    let j ← drawBelow .half (xs.size - i)
    shuffleFront count (i + 1) (xs.swapIfInBounds i (i + j))

def shuffleBack : Nat → Array Nat → Draw (Array Nat)
  | 0, xs => pure xs
  | i + 1, xs => do
    let j ← drawBelow .half (i + 2)
    shuffleBack i (xs.swapIfInBounds (i + 1) j)

def sampleByShuffle (length amount : Nat) : Draw (List Nat) := do
  let xs ← shuffleFront amount 0 (Array.range length)
  return xs.toList.take amount

/-- Adds a number up to `j` to numbers below `j`. If the number drawn is there already, `j` itself
is added, in front of it or at the end. -/
def addUpTo (inFront : Bool) (j : Nat) (xs : List Nat) : Draw (List Nat) := do
  let t ← drawBelow .half (j + 1)
  if t ∈ xs then
    return if inFront then xs.insertIdx (xs.idxOf t) j else xs ++ [j]
  else return xs ++ [t]

def addAll (inFront : Bool) : Nat → Nat → List Nat → Draw (List Nat)
  | 0, _, xs => pure xs
  | count + 1, j, xs => do
    let xs ← addUpTo inFront j xs
    addAll inFront count (j + 1) xs

/-- Adds a number to the sample as the numbers to draw from grow by one. The order is random from
the start if numbers are put in front of others, and is made so by a shuffle if they are not. -/
def sampleByGrowth (length amount : Nat) : Draw (List Nat) := do
  if amount < 50 then addAll true amount (length - amount) []
  else
    let xs ← addAll false amount (length - amount) []
    return (← shuffleBack (amount - 1) xs.toArray).toList

def drawUnseen (width : Width) (length : Nat) (seen : Std.HashSet Nat) : Nat → Draw Nat
  | 0 => pure (((List.range (seen.size + 1)).find? fun n => !seen.contains n).getD 0)
  | more + 1 => do
    let n ← drawWithin width (multipleBound width length) length tries
    if seen.contains n then drawUnseen width length seen more else return n

def drawAllUnseen (width : Width) (length : Nat) : Nat → Std.HashSet Nat → Draw (List Nat)
  | 0, _ => pure []
  | count + 1, seen => do
    let n ← drawUnseen width length seen tries
    return n :: (← drawAllUnseen width length count (seen.insert n))

def sampleByRejection (width : Width) (length amount : Nat) : Draw (List Nat) :=
  drawAllUnseen width length amount {}

/-- Whether shuffling takes less time than growth, which it does for samples that are no small part
of the whole. -/
def shuffleIsQuick (length amount : Nat) : Bool :=
  let n := Float32.ofNat amount
  let (slope, offset) : Float32 × Float32 :=
    if length < 500000 then (1.6, 10) else (8 / 45, 70 / 9)
  11 < amount && Float32.ofNat length < (offset + slope * n) * n

def shuffleIsQuicker (length amount : Nat) : Bool :=
  let factor : Float32 := if length < 500000 then 270 else 330 / 9
  Float32.ofNat length < factor * Float32.ofNat amount

def sample (length amount : Nat) : Draw (List Nat) :=
  if UInt32.size ≤ length then sampleByRejection .full length amount
  else if amount < 163 then
    if shuffleIsQuick length amount then sampleByShuffle length amount
    else sampleByGrowth length amount
  else if shuffleIsQuicker length amount then sampleByShuffle length amount
  else sampleByRejection .half length amount

end SeriesBench.Random
