import SeriesBench.Text.Blank
import SeriesBench.Text.Number

set_option autoImplicit false

namespace SeriesBench.Time
open SeriesBench.Text

def maxWord : Nat := 18446744073709551615

structure Duration where
  nanos : Nat
  nanos_lt : nanos < UInt64.size * 1000000000
deriving DecidableEq

namespace Duration

def zero : Duration := ⟨0, by decide⟩

def isZero (d : Duration) : Bool := d.nanos == 0

def seconds (d : Duration) : Nat := d.nanos / 1000000000

def subsecond (d : Duration) : Nat := d.nanos % 1000000000

def ofNanos? (n : Nat) : Option Duration :=
  if h : n < UInt64.size * 1000000000 then some ⟨n, h⟩ else none

def ofSeconds (s : UInt64) : Duration :=
  ⟨s.toNat * 1000000000, by have := s.toNat_lt_size; omega⟩

inductive TimeUnit where
  | year | month | week | day | hour | minute | second | millisecond | microsecond | nanosecond
deriving DecidableEq, Repr

/-- A month is a twelfth of the year of 365.25 days, cut to whole minutes. -/
def TimeUnit.nanos : TimeUnit → Nat
  | .year => 31557600000000000
  | .month => 2630016000000000
  | .week => 604800000000000
  | .day => 86400000000000
  | .hour => 3600000000000
  | .minute => 60000000000
  | .second => 1000000000
  | .millisecond => 1000000
  | .microsecond => 1000
  | .nanosecond => 1

def writtenUnits : List TimeUnit :=
  [.year, .month, .day, .hour, .minute, .second, .millisecond, .microsecond, .nanosecond]

def unitText (unit : TimeUnit) (count : Nat) : List Char :=
  match unit with
  | .year => if count = 1 then "year".toList else "years".toList
  | .month => if count = 1 then "month".toList else "months".toList
  | .week => if count = 1 then "week".toList else "weeks".toList
  | .day => if count = 1 then "day".toList else "days".toList
  | .hour => ['h']
  | .minute => ['m']
  | .second => ['s']
  | .millisecond => ['m', 's']
  | .microsecond => ['u', 's']
  | .nanosecond => ['n', 's']

def amounts : List TimeUnit → Nat → List (TimeUnit × Nat)
  | [], _ => []
  | unit :: units, n => (unit, n / unit.nanos) :: amounts units (n % unit.nanos)

def textChars (d : Duration) : List Char :=
  if d.isZero then ['0', 's']
  else
    let parts := (amounts writtenUnits d.nanos).filter fun p => p.2 != 0
    List.intercalate [' '] (parts.map fun p => digits p.2 ++ unitText p.1 p.2)

def text (d : Duration) : String := String.ofList d.textChars

def readUnit? (s : List Char) : Option TimeUnit :=
  let name := String.ofList s
  if name ∈ ["nanos", "nsec", "ns"] then some .nanosecond
  else if name ∈ ["usec", "us", "µs"] then some .microsecond
  else if name ∈ ["millis", "msec", "ms"] then some .millisecond
  else if name ∈ ["seconds", "second", "secs", "sec", "s"] then some .second
  else if name ∈ ["minutes", "minute", "mins", "min", "m"] then some .minute
  else if name ∈ ["hours", "hour", "hrs", "hr", "h"] then some .hour
  else if name ∈ ["days", "day", "d"] then some .day
  else if name ∈ ["weeks", "week", "wks", "wk", "w"] then some .week
  else if name ∈ ["months", "month", "M"] then some .month
  else if name ∈ ["years", "year", "yrs", "yr", "y"] then some .year
  else none

def isUnitChar (c : Char) : Bool := c.isAlpha || c == 'µ'

/-- Why a text gives no duration. An overrun is a sum of whole seconds that fit in 64 bits and of
nanoseconds that make up just the one second too many; nothing can be answered to it. -/
inductive DurationFault where
  | unreadable
  | overrun
deriving DecidableEq, Repr

structure Amount where
  whole : Nat
  fraction : Option (Nat × Nat)
  unit : TimeUnit
deriving DecidableEq, Repr

def spaced (p : Char → Bool) : List Char → List Char × List Char
  | [] => ([], [])
  | c :: cs =>
    if p c then
      let rest := spaced p cs
      (c :: rest.1, rest.2)
    else if isBlank c then spaced p cs
    else ([], c :: cs)

def readWord? (ds : List Char) : Option Nat := (readNat maxWord ds).toOption

def readFraction? (ds : List Char) : Option (Nat × Nat) := do
  let numerator ← readWord? ds
  let denominator := Nat.pow 10 ds.length
  if denominator ≤ maxWord then some (numerator, denominator) else none

def readPoint? : List Char → Option (Option (Nat × Nat) × List Char)
  | '.' :: s =>
    let (ds, s) := spaced Char.isDigit s
    (readFraction? ds).map fun fraction => (some fraction, s)
  | s => some (none, s)

/-- One amount at the front, and what follows its unit. The digits of a number may have white space
among them, the letters of a unit may not, and end before white space or the next amount. -/
def readAmount? (s : List Char) : Option (Amount × List Char) := do
  let (ds, s) := spaced Char.isDigit s
  let whole ← readWord? ds
  let (fraction, s) ← readPoint? s
  let unit ← readUnit? (s.takeWhile isUnitChar)
  let rest := s.dropWhile isUnitChar
  if rest.head?.all fun c => c.isDigit || isBlank c then some (⟨whole, fraction, unit⟩, rest)
  else none

def wholeMeasure : TimeUnit → Nat
  | .nanosecond => 1
  | .microsecond => 1
  | .millisecond => 1
  | _ => 1000000000

/-- A fraction of a minute or a shorter unit is counted in nanoseconds, one of a longer unit in
whole seconds; a nanosecond has no fractions. -/
def fractionMeasure? : TimeUnit → Option Nat
  | .nanosecond => none
  | .microsecond => some 1
  | .millisecond => some 1
  | .second => some 1
  | .minute => some 1
  | _ => some 1000000000

def fractionCount? (unit : TimeUnit) (measure : Nat) (fraction : Nat × Nat) : Option Nat :=
  let scaled := fraction.1 * (unit.nanos / measure)
  if scaled ≤ maxWord ∧ scaled % fraction.2 = 0 then some (scaled / fraction.2) else none

/-- Adds to the total nanoseconds `count` times a measure, which is a second or a nanosecond. What
is counted in nanoseconds has to fit in 64 bits together with those after the last whole second. -/
def add (total count measure : Nat) : Except DurationFault Nat :=
  let subsecond := if measure = 1 then total % 1000000000 else 0
  let sum := total + count * measure
  if maxWord < subsecond + count then .error .unreadable
  else if sum < UInt64.size * 1000000000 then .ok sum
  else if measure = 1 ∧ subsecond + count = 1000000000 then .error .overrun
  else .error .unreadable

def Amount.addTo (a : Amount) (total : Nat) : Except DurationFault Nat := do
  let measure := wholeMeasure a.unit
  let total ← add total (a.whole * (a.unit.nanos / measure)) measure
  match a.fraction with
  | none => return total
  | some fraction =>
    match fractionMeasure? a.unit with
    | none => throw .unreadable
    | some measure =>
      match fractionCount? a.unit measure fraction with
      | none => throw .unreadable
      | some count => add total count measure

def readAmounts (fuel : Nat) (s : List Char) (total : Nat) : Except DurationFault Nat :=
  match fuel, trimLeft s with
  | _, [] => .ok total
  | 0, _ => .error .unreadable
  | fuel + 1, s =>
    match readAmount? s with
    | none => .error .unreadable
    | some (amount, rest) => do readAmounts fuel rest (← amount.addTo total)

def readChars (s : List Char) : Except DurationFault Duration :=
  if s = ['0'] then .ok zero
  else if allBlank s then .error .unreadable
  else do
    match ofNanos? (← readAmounts s.length s 0) with
    | some d => return d
    | none => throw .unreadable

def briefChars (whole part width : Nat) (unit : String) : List Char :=
  let fraction := trimZeros (padded width part)
  digits whole ++ (if fraction.isEmpty then [] else '.' :: fraction) ++ unit.toList

def briefText (d : Duration) : String :=
  String.ofList <|
    if 0 < d.seconds then briefChars d.seconds d.subsecond 9 "s"
    else if 1000000 ≤ d.nanos then briefChars (d.nanos / 1000000) (d.nanos % 1000000) 6 "ms"
    else if 1000 ≤ d.nanos then briefChars (d.nanos / 1000) (d.nanos % 1000) 3 "µs"
    else briefChars d.nanos 0 0 "ns"

end Duration
end SeriesBench.Time
