import SeriesBench.Plan.Basic

set_option autoImplicit false

namespace SeriesBench
open SeriesBench.Time

inductive Aggregator where
  | avg
  | sum
  | count
  | max
  | min
deriving DecidableEq, Repr

namespace Aggregator

def read (label : String) : Except PlanError Aggregator :=
  match String.ofList (label.toList.map Char.toLower) with
  | "avg" => .ok .avg
  | "mean" => .ok .avg
  | "sum" => .ok .sum
  | "count" => .ok .count
  | "max" => .ok .max
  | "min" => .ok .min
  | _ => .error (.aggregation label)

def name : Aggregator → String
  | .avg => "avg"
  | .sum => "sum"
  | .count => "count"
  | .max => "max"
  | .min => "min"

end Aggregator

structure Cell where
  count : Nat
  sum : Float
  least : Float
  greatest : Float

namespace Cell

def empty : Cell := ⟨0, 0, 1 / 0, -1 / 0⟩

/-- A value that is no number counts and spoils the sum, but is neither least nor greatest. -/
def add (c : Cell) (value : Float) : Cell where
  count := c.count + 1
  sum := c.sum + value
  least := if value < c.least then value else c.least
  greatest := if c.greatest < value then value else c.greatest

/-- No value if the cell is empty, except that none is a count of zero. -/
def value? (c : Cell) (aggregator : Aggregator) : Option Float :=
  match aggregator with
  | .count => some (Float.ofNat c.count)
  | a =>
    if c.count = 0 then none
    else match a with
      | .avg => some (c.sum / Float.ofNat c.count)
      | .sum => some c.sum
      | .max => some c.greatest
      | .min => some c.least
      | .count => some (Float.ofNat c.count)

end Cell

structure Row where
  field : String
  timestamp : Int
  value : Float

structure Accumulator where
  aggregator : Aggregator
  limit : Option UInt64
  buckets : List (Interval × StringMap Cell)

structure BucketResult where
  interval : Interval
  values : StringMap (Option Float)

namespace Accumulator

def ofPlan (p : FoldedPlan) : Except PlanError Accumulator := do
  let aggregator ← Aggregator.read p.aggregation
  let cells := StringMap.ofList (p.fields.map fun f => (f, Cell.empty))
  return ⟨aggregator, p.limit, p.buckets.map fun i => (i, cells)⟩

def addToFirst (row : Row) :
    List (Interval × StringMap Cell) → Option (List (Interval × StringMap Cell))
  | [] => none
  | (interval, cells) :: rest =>
    if interval.contains row.timestamp then
      some ((interval, cells.upsert row.field fun c => (c.getD Cell.empty).add row.value) :: rest)
    else (addToFirst row rest).map ((interval, cells) :: ·)

/-- The accumulator with the row in its cell, unless no bucket holds its timestamp. -/
def add? (a : Accumulator) (row : Row) : Option Accumulator :=
  (addToFirst row a.buckets).map fun buckets => { a with buckets }

def results (a : Accumulator) : List BucketResult :=
  let kept := match a.limit with
    | none => a.buckets
    | some n => a.buckets.take n.toNat
  kept.map fun b => ⟨b.1, b.2.mapValues (·.value? a.aggregator)⟩

end Accumulator
end SeriesBench
