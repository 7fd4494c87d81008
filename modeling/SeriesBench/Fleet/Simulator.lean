import SeriesBench.Fleet.Host
import SeriesBench.Point.Basic

set_option autoImplicit false

namespace SeriesBench
open SeriesBench.Time SeriesBench.Random

structure Simulator where
  hosts : Array Host
  usage : Array (List Float)
  now : Instant
  stop : Instant
  interval : Duration
  nextHost : Nat
  generator : Generator

namespace Simulator

/-- The longest interval, as many milliseconds as 63 bits can count. -/
def longestInterval : Nat := 9223372036854775807 * 1000000

def maxReading : Float := 100

def maxStep : Float := 1

def toCents (x : Float) : Float := (x * 100).round / 100

def clamp (low high x : Float) : Float :=
  let x := if x < low then low else x
  if high < x then high else x

def firstReading : Draw Float := return toCents (← drawReal 0 maxReading)

def nextReading (x : Float) : Draw Float := do
  let step ← drawReal (-maxStep) maxStep
  return toCents (clamp 0 maxReading (x + step))

def start (f : Fleet) (start stop : Instant) (interval : Duration) (seed : UInt64) :
    Except WorkloadError Simulator :=
  if interval.isZero then .error .zeroInterval
  else if stop < start then .error (.timeRange start stop)
  else if longestInterval < interval.nanos then .error (.timeRange start stop)
  else
    let readings := f.hosts.mapM fun _ => cpuMetrics.mapM fun _ => firstReading
    let (usage, generator) := readings.run (Generator.ofSeed seed)
    .ok {
      hosts := f.hosts.toArray
      usage := usage.toArray
      now := start
      stop, interval
      nextHost := 0
      generator }

def point (h : Host) (readings : List Float) (t : Instant) : Point where
  measurement := cpuMeasurement
  tags := h.tags.map fun tag => (tag.1, some (.text tag.2))
  fields := (cpuMetrics.zip readings).map fun m => (m.1, some (.real m.2))
  time := some t

/-- The next point, and the simulation after it. Time goes on when every host has had its turn. -/
def next? (s : Simulator) : Option (Point × Simulator) :=
  if s.stop ≤ s.now then none
  else match s.hosts[s.nextHost]?, s.usage[s.nextHost]? with
    | some h, some readings =>
      let (moved, generator) := (readings.mapM nextReading).run s.generator
      let last := s.nextHost + 1 = s.hosts.size
      some (point h readings s.now, { s with
        usage := s.usage.setIfInBounds s.nextHost moved
        now := if last then (s.now.add? s.interval.nanos).getD s.stop else s.now
        nextHost := if last then 0 else s.nextHost + 1
        generator })
    | _, _ => none

def take (n : Nat) (s : Simulator) : List Point × Simulator := go n s []
where
  go : Nat → Simulator → List Point → List Point × Simulator
    | 0, s, done => (done.reverse, s)
    | n + 1, s, done =>
      match s.next? with
      | none => (done.reverse, s)
      | some (p, s) => go n s (p :: done)

section Taking
variable {s s' : Simulator} {p : Point}

theorem take_go (n : Nat) (s : Simulator) (done : List Point) :
    take.go n s done = (done.reverse ++ (s.take n).1, (s.take n).2) := by
  induction n generalizing s done with
  | zero => rw [take.go, take, take.go, List.reverse_nil, List.append_nil]
  | succ n ih =>
    rw [take, take.go, take.go]
    cases s.next? with
    | none => rw [List.reverse_nil, List.append_nil]
    | some r =>
      dsimp only
      rw [ih, ih r.2 [r.1], List.reverse_cons, List.append_assoc]
      rfl

theorem take_cons (h : s.next? = some (p, s')) (n : Nat) :
    s.take (n + 1) = (p :: (s'.take n).1, (s'.take n).2) := by
  rw [take, take.go, h]
  exact take_go n s' [p]

theorem take_of_ended (h : s.next? = none) (n : Nat) : s.take n = ([], s) := by
  cases n with
  | zero => rfl
  | succ n => rw [take, take.go, h]; rfl

theorem take_snoc {n : Nat} (h : (s.take n).2.next? = some (p, s')) :
    s.take (n + 1) = ((s.take n).1 ++ [p], s') := by
  induction n generalizing s with
  | zero => exact take_cons h 0
  | succ n ih =>
    cases hnext : s.next? with
    | none =>
      rw [take_of_ended hnext, hnext] at h
      exact absurd h (by simp)
    | some r =>
      rw [take_cons hnext] at h
      rw [take_cons hnext, take_cons hnext, ih h]
      rfl

theorem take_add_of_ended {n : Nat} (h : (s.take n).2.next? = none) (more : Nat) :
    s.take (n + more) = s.take n := by
  induction n generalizing s with
  | zero =>
    rw [Nat.zero_add]
    exact take_of_ended h more
  | succ n ih =>
    cases hnext : s.next? with
    | none => rw [take_of_ended hnext, take_of_ended hnext]
    | some r =>
      rw [take_cons hnext] at h
      rw [Nat.add_right_comm, take_cons hnext, take_cons hnext, ih h]

theorem take_take (m n : Nat) (s : Simulator) : (s.take (m + n)).1.take m = (s.take m).1 := by
  induction m generalizing s with
  | zero => exact List.take_zero
  | succ m ih =>
    rw [Nat.add_right_comm]
    cases hnext : s.next? with
    | none => rw [take_of_ended hnext, take_of_ended hnext, List.take_nil]
    | some r => rw [take_cons hnext, take_cons hnext, List.take_succ_cons, ih]

end Taking

/-- A number that no simulation has more points than. -/
def pointBound (s : Simulator) : Nat :=
  s.hosts.size * ((s.stop.since s.now).toNat / s.interval.nanos + 2)

def points (s : Simulator) : List Point := (s.take s.pointBound).1

end Simulator
end SeriesBench
