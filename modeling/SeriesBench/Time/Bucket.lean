import SeriesBench.Time.Interval
import SeriesBench.Time.Duration

set_option autoImplicit false

namespace SeriesBench.Time

structure Bucket where
  raw : Interval
  effective : Interval
deriving DecidableEq

structure Buckets where
  span : Interval
  width : Int
  nextStart : Option Int
  width_pos : 0 < width
  min_le_nextStart : ∀ s, nextStart = some s → minTimestamp ≤ s

namespace Buckets

/-- A grid needs a width of at least a nanosecond that is itself a timestamp, and the bucket of the
span's start has to begin at a timestamp. -/
def over? (span : Interval) (width : Duration) : Option Buckets :=
  if h : 0 < (width.nanos : Int) ∧ (width.nanos : Int) ≤ maxTimestamp then
    if span.isEmpty then some ⟨span, width.nanos, none, h.1, by simp⟩
    else
      let first := span.start - span.start % width.nanos
      if hf : minTimestamp ≤ first then
        some ⟨span, width.nanos, some first, h.1, by simp only [Option.some.injEq]; omega⟩
      else none
  else none

/-- A bucket that would end beyond the last timestamp ends there. -/
def next? (b : Buckets) : Option (Bucket × Buckets) :=
  match hb : b.nextStart with
  | none => none
  | some start =>
    if h : start < b.span.stop then
      let stop := min (start + b.width) maxTimestamp
      have hmin : minTimestamp ≤ start := b.min_le_nextStart start hb
      have hstop : start ≤ stop := by
        have := b.span.stop_le_max
        have := b.width_pos
        simp only [stop]
        omega
      let raw : Interval := ⟨start, stop, hmin, hstop, by simp only [stop]; omega⟩
      let rest : Buckets :=
        { b with
          nextStart := if stop < b.span.stop ∧ start < stop then some stop else none
          min_le_nextStart := by
            intro s hs
            split at hs
            · simp only [Option.some.injEq] at hs
              omega
            · simp at hs }
      some (⟨raw, raw.clamp b.span⟩, rest)
    else none

def take : Nat → Buckets → List Bucket × Buckets
  | 0, b => ([], b)
  | n + 1, b =>
    match b.next? with
    | none => ([], b)
    | some (bucket, rest) =>
      let (buckets, rest) := take n rest
      (bucket :: buckets, rest)

/-- The number of grid cells from the next bucket to the end of the span. -/
def count (b : Buckets) : Nat :=
  match b.nextStart with
  | none => 0
  | some start => ((b.span.stop - start + b.width - 1) / b.width).toNat

def toList (b : Buckets) : List Bucket := (b.take b.count).1

end Buckets
end SeriesBench.Time
