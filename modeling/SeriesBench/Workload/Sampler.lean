import SeriesBench.Fleet.Host
import SeriesBench.Random.Sample
import SeriesBench.Time.Interval

set_option autoImplicit false

/-!
# Choosing what to query

A sampler draws windows of time and hosts from a dataset. What it draws depends on the draws before,
also on those of an attempt that failed later on.
-/
namespace SeriesBench
open SeriesBench.Time SeriesBench.Random

structure Dataset where
  start : Instant
  stop : Instant
  scale : Nat
  seed : UInt64
deriving DecidableEq

structure Sampler where
  start : Instant
  stop : Instant
  scale : Nat
  generator : Generator
deriving DecidableEq

abbrev Sampling (α : Type) := ExceptT Failure (StateM Sampler) α

namespace Sampler

def ofDataset (d : Dataset) : Except WorkloadError Sampler :=
  if d.stop < d.start then .error (.timeRange d.start d.stop)
  else .ok ⟨d.start, d.stop, d.scale, .ofSeed d.seed⟩

def draw {α : Type} (d : Draw α) : Sampling α :=
  modifyGet fun s =>
    let (a, generator) := d.run s.generator
    (a, { s with generator })

def longestWindow : Nat := 9223372036854775807 * 1000000

/-- By how many nanoseconds the start of a window can be moved, if the window fits and the number is
one of 63 bits. -/
def slack (s : Sampler) (window : Duration) : Except Failure Nat :=
  let slack := s.stop.since s.start - window.nanos
  if longestWindow < window.nanos then .error (.refused (.windowTooLarge s.start s.stop window))
  else if slack < -longestWindow then .error .broken
  else if 0 ≤ slack ∧ slack ≤ maxTimestamp then .ok slack.toNat
  else .error (.refused (.windowTooLarge s.start s.stop window))

/-- The window from so many nanoseconds after the start of the dataset. -/
def place (s : Sampler) (offset : Nat) (window : Duration) : Except Failure (Instant × Instant) := do
  let start ← orBreak (s.start.add? offset)
  let stop ← orBreak (start.add? window.nanos)
  return (start, stop)

/-- A window that starts a whole number of seconds after the dataset. -/
def window (window : Duration) : Sampling (Instant × Instant) := do
  let s ← get
  let slack ← MonadExcept.ofExcept (s.slack window)
  let offset ← draw (drawBelow .full (slack + 1))
  MonadExcept.ofExcept (s.place (offset - offset % nanosPerSecond) window)

def hosts (count : Nat) : Sampling (List String) := do
  let s ← get
  if 0 < count ∧ count ≤ s.scale then
    return (← draw (sample s.scale count)).map Host.hostname
  else throw (.refused (.hostCount count s.scale))

end Sampler

/-- A clause for each host, so that the hosts are let through and no others. -/
def hostTagSets (hosts : List String) : List (List String) :=
  hosts.map fun h => [hostnameTag ++ "=" ++ h]

end SeriesBench
