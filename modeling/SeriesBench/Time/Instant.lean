import SeriesBench.Time.Date

set_option autoImplicit false

/-!
# Instants

An instant is a second of UTC, counted from the epoch, and the nanoseconds after it. Any second may
be drawn out into a leap second, which has the nanoseconds from one to two billion. At the end of a
minute it is written as second 60. Arithmetic counts a leap second only inside it.
-/
namespace SeriesBench.Time

def nanosPerSecond : Nat := 1000000000

def secondsPerDay : Int := 86400

def minSecond : Int := -8334601228800

def maxSecond : Int := 8210266876799

structure Instant where
  seconds : Int
  nanos : Nat
  min_le_seconds : minSecond ≤ seconds
  seconds_le_max : seconds ≤ maxSecond
  nanos_lt : nanos < 2 * nanosPerSecond
deriving DecidableEq

namespace Instant

def ofParts? (seconds : Int) (nanos : Nat) : Option Instant :=
  if h : minSecond ≤ seconds ∧ seconds ≤ maxSecond ∧ nanos < 2 * nanosPerSecond then
    some ⟨seconds, nanos, h.1, h.2.1, h.2.2⟩
  else none

/-- A leap second is only counted from the epoch where it ends a minute. -/
def ofUnix? (seconds : Int) (nanos : Nat) : Option Instant :=
  if nanosPerSecond ≤ nanos → seconds % 60 = 59 then ofParts? seconds nanos else none

theorem ofParts?_self (t : Instant) : ofParts? t.seconds t.nanos = some t :=
  dif_pos ⟨t.min_le_seconds, t.seconds_le_max, t.nanos_lt⟩

theorem of_ofParts? {t : Instant} {seconds : Int} {nanos : Nat}
    (h : ofParts? seconds nanos = some t) : t.seconds = seconds ∧ t.nanos = nanos := by
  unfold ofParts? at h
  split at h
  · cases h
    exact ⟨rfl, rfl⟩
  · exact absurd h (by simp)

def epoch : Instant := ⟨0, 0, by decide, by decide, by decide⟩

def isLeap (t : Instant) : Bool := nanosPerSecond ≤ t.nanos

instance : LT Instant where
  lt a b := a.seconds < b.seconds ∨ a.seconds = b.seconds ∧ a.nanos < b.nanos

instance : LE Instant where
  le a b := a.seconds < b.seconds ∨ a.seconds = b.seconds ∧ a.nanos ≤ b.nanos

instance (a b : Instant) : Decidable (a < b) :=
  inferInstanceAs (Decidable (_ ∨ _ ∧ _))

instance (a b : Instant) : Decidable (a ≤ b) :=
  inferInstanceAs (Decidable (_ ∨ _ ∧ _))

theorem lt_iff {a b : Instant} :
    a < b ↔ a.seconds < b.seconds ∨ a.seconds = b.seconds ∧ a.nanos < b.nanos := Iff.rfl

theorem le_iff {a b : Instant} :
    a ≤ b ↔ a.seconds < b.seconds ∨ a.seconds = b.seconds ∧ a.nanos ≤ b.nanos := Iff.rfl

theorem not_le {a b : Instant} : ¬ a ≤ b ↔ b < a := by
  rw [le_iff, lt_iff]
  omega

def day (t : Instant) : Int := t.seconds / secondsPerDay

def secondOfDay (t : Instant) : Int := t.seconds % secondsPerDay

/-- The nanoseconds from the epoch, in which a leap second repeats the second after it. -/
def unixNanos (t : Instant) : Int := t.seconds * nanosPerSecond + t.nanos

/-- The nanoseconds from `b` to `a`. A leap second that lies between them by the time of day counts;
one that is left behind or run into is a second of its own. -/
def since (a b : Instant) : Int :=
  let leap : Int :=
    if b.secondOfDay < a.secondOfDay ∧ b.isLeap then 1
    else if a.secondOfDay < b.secondOfDay ∧ a.isLeap then -1
    else 0
  (a.seconds - b.seconds + leap) * nanosPerSecond + ((a.nanos : Int) - b.nanos)

/-- The instant `delta` nanoseconds later, unless it is beyond the calendar's years. A way that
leads forward out of a leap second starts in the second that it extends, and one that goes back a
second or more starts in the second after it. -/
def add? (t : Instant) (delta : Int) : Option Instant :=
  let whole := Int.tdiv delta nanosPerSecond
  let part := Int.tmod delta nanosPerSecond
  let leavesForward := 0 < whole ∨ 0 < part ∧ (2 * nanosPerSecond : Int) - part ≤ t.nanos
  if t.isLeap ∧ ¬ leavesForward ∧ ¬ whole < 0 then
    ofParts? t.seconds (t.nanos + part).toNat
  else
    let count : Int :=
      if ¬ t.isLeap then t.unixNanos
      else if leavesForward then t.unixNanos - nanosPerSecond
      else t.unixNanos
    let moved := count + delta
    ofParts? (moved / nanosPerSecond) (moved % nanosPerSecond).toNat

end Instant
end SeriesBench.Time
