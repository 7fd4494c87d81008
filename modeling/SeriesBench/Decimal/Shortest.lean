import SeriesBench.Text.Number

set_option autoImplicit false

/-!
# Shortest decimals

A floating-point number stands for the real numbers that round to it. Its text is the decimal with
the fewest digits among them; of those with equally many the nearest to the number, and of two
equally near the larger.
-/
namespace SeriesBench.Decimal
open SeriesBench.Text

/-- The number `center / unit` and the ends of the range that rounds to it, in the same unit. -/
structure Rounding where
  low : Nat
  center : Nat
  high : Nat
  unit : Nat
  closed : Bool
deriving DecidableEq, Repr

/-- Of the number `mantissa * 2 ^ exponent`. The range reaches half way to the neighbours, and the
one below is half as far off if the mantissa is the least of its exponent. -/
def Rounding.ofBinary (mantissa : Nat) (exponent : Int) (least : Bool) : Rounding :=
  let scale := Nat.pow 2 (exponent - 2).toNat
  { low := (4 * mantissa - if least then 1 else 2) * scale
    center := 4 * mantissa * scale
    high := (4 * mantissa + 2) * scale
    unit := Nat.pow 2 (2 - exponent).toNat
    closed := mantissa % 2 == 0 }

namespace Rounding

def rescale (r : Rounding) (exponent : Int) : Rounding :=
  let up := Nat.pow 10 (-exponent).toNat
  { r with
    low := r.low * up
    center := r.center * up
    high := r.high * up
    unit := r.unit * Nat.pow 10 exponent.toNat }

def holds (r : Rounding) (n : Nat) : Bool :=
  if r.closed then r.low ≤ n * r.unit && n * r.unit ≤ r.high
  else r.low < n * r.unit && n * r.unit < r.high

def nearest? (r : Rounding) : Option Nat :=
  let below := r.center / r.unit
  let above := below + 1
  match r.holds below, r.holds above with
  | true, true =>
    some (if r.center - below * r.unit < above * r.unit - r.center then below else above)
  | true, false => some below
  | false, true => some above
  | false, false => none

def magnitude (r : Rounding) : Int :=
  if r.unit ≤ r.center then (digits (r.center / r.unit)).length
  else 1 - (digits ((r.unit - 1) / r.center)).length

def enoughDigits : Nat := 17

/-- A decimal `n * 10 ^ exponent` in the range, from the first grid that has one, where the grids
get ten times finer from one to the next. -/
def search (r : Rounding) : Nat → Int → Nat × Int
  | 0, exponent =>
    let r := r.rescale exponent
    (r.center / r.unit, exponent)
  | more + 1, exponent =>
    match (r.rescale exponent).nearest? with
    | some n => (n, exponent)
    | none => search r more (exponent - 1)

def shortest (r : Rounding) : Nat × Int := r.search enoughDigits (r.magnitude - 1)

end Rounding

def positional (n : Nat) (exponent : Int) : List Char :=
  if 0 ≤ exponent then digits (n * Nat.pow 10 exponent.toNat)
  else
    let places := exponent.natAbs
    let one := Nat.pow 10 places
    let fraction := trimZeros (padded places (n % one))
    digits (n / one) ++ if fraction.isEmpty then [] else '.' :: fraction

def fractionBound : Nat := 4503599627370496

def exponentBound : Nat := 2048

def bitsText (bits : Nat) : List Char :=
  let sign := if bits / (fractionBound * exponentBound) % 2 = 1 then ['-'] else []
  let biased := bits / fractionBound % exponentBound
  let fraction := bits % fractionBound
  if biased + 1 = exponentBound then
    if fraction = 0 then sign ++ ['i', 'n', 'f'] else ['N', 'a', 'N']
  else
    let mantissa := if biased = 0 then fraction else fraction + fractionBound
    let exponent : Int := (max biased 1 : Nat) - 1075
    if mantissa = 0 then sign ++ ['0']
    else
      let (n, e) := (Rounding.ofBinary mantissa exponent (fraction = 0 ∧ 1 < biased)).shortest
      sign ++ positional n e

def floatText (x : Float) : List Char := bitsText x.toBits.toNat

end SeriesBench.Decimal
