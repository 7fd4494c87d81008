import SeriesBench.Time.Rfc3339

set_option autoImplicit false

namespace SeriesBench.Time

def minTimestamp : Int := -9223372036854775808

def maxTimestamp : Int := 9223372036854775807

abbrev Timestamp : Type := { n : Int // minTimestamp ≤ n ∧ n ≤ maxTimestamp }

def Timestamp.ofInt? (n : Int) : Option Timestamp :=
  if h : minTimestamp ≤ n ∧ n ≤ maxTimestamp then some ⟨n, h⟩ else none

def Instant.timestamp? (t : Instant) : Option Timestamp := Timestamp.ofInt? t.unixNanos

def Timestamp.instant (n : Timestamp) : Instant where
  seconds := n.val / nanosPerSecond
  nanos := (n.val % nanosPerSecond).toNat
  min_le_seconds := by
    have := n.property
    simp only [minTimestamp, maxTimestamp, minSecond, nanosPerSecond] at *
    omega
  seconds_le_max := by
    have := n.property
    simp only [minTimestamp, maxTimestamp, maxSecond, nanosPerSecond] at *
    omega
  nanos_lt := by
    simp only [nanosPerSecond]
    omega

/-- Of the timestamps from the start up to the end, which is left out. -/
structure Interval where
  start : Int
  stop : Int
  min_le_start : minTimestamp ≤ start
  start_le_stop : start ≤ stop
  stop_le_max : stop ≤ maxTimestamp
deriving DecidableEq

namespace Interval

def between? (start stop : Timestamp) : Option Interval :=
  if h : start.val ≤ stop.val then some ⟨start.val, stop.val, start.property.1, h, stop.property.2⟩
  else none

def isEmpty (i : Interval) : Bool := i.start == i.stop

def length (i : Interval) : Int := i.stop - i.start

def contains (i : Interval) (t : Int) : Bool := i.start ≤ t && t < i.stop

instance : Membership Int Interval := ⟨fun i t => i.start ≤ t ∧ t < i.stop⟩

theorem mem_iff {i : Interval} {t : Int} : t ∈ i ↔ i.start ≤ t ∧ t < i.stop := Iff.rfl

theorem contains_iff {i : Interval} {t : Int} : i.contains t = true ↔ t ∈ i := by
  simp [contains, mem_iff]

def overlaps (a b : Interval) : Bool := max a.start b.start < min a.stop b.stop

/-- The part of the interval within `span`, or an empty interval if there is none. -/
def clamp (i span : Interval) : Interval where
  start := max i.start span.start
  stop := max (min i.stop span.stop) (max i.start span.start)
  min_le_start := by have := i.min_le_start; omega
  start_le_stop := by omega
  stop_le_max := by
    have := i.stop_le_max
    have := i.start_le_stop
    have := span.start_le_stop
    have := span.stop_le_max
    omega

def compare (a b : Interval) : Ordering :=
  (Ord.compare a.start b.start).then (Ord.compare a.stop b.stop)

def startTimestamp (i : Interval) : Timestamp :=
  ⟨i.start, i.min_le_start, Int.le_trans i.start_le_stop i.stop_le_max⟩

def stopTimestamp (i : Interval) : Timestamp :=
  ⟨i.stop, Int.le_trans i.min_le_start i.start_le_stop, i.stop_le_max⟩

def text (i : Interval) : String :=
  "[" ++ i.startTimestamp.instant.zuluText ++ ", " ++ i.stopTimestamp.instant.zuluText ++ ")"

end Interval
end SeriesBench.Time
