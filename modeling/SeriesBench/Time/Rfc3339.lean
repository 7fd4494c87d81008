import SeriesBench.Text.Utf8
import SeriesBench.Time.Instant

set_option autoImplicit false

namespace SeriesBench.Time
open SeriesBench.Text

namespace Instant

def fractionText (nanos : Nat) : List Char :=
  if nanos = 0 then []
  else if nanos % 1000000 = 0 then '.' :: padded 3 (nanos / 1000000)
  else if nanos % 1000 = 0 then '.' :: padded 6 (nanos / 1000)
  else '.' :: padded 9 nanos

/-- A leap second is written as the second after the one that it extends. -/
def clockText (t : Instant) : List Char :=
  let s := t.secondOfDay.toNat
  let (extra, nanos) :=
    if t.isLeap then (1, t.nanos - nanosPerSecond) else (0, t.nanos)
  padded 2 (s / 3600) ++ ':' :: padded 2 (s / 60 % 60) ++ ':' :: padded 2 (s % 60 + extra)
    ++ fractionText nanos

def date (t : Instant) : Date := Date.ofDay t.day

def timeText (join : Char) (zone : List Char) (t : Instant) : List Char :=
  t.date.text ++ join :: t.clockText ++ zone

def zuluText (t : Instant) : String := String.ofList (t.timeText 'T' ['Z'])

def offsetText (t : Instant) : String :=
  String.ofList (t.timeText 'T' ['+', '0', '0', ':', '0', '0'])

def plainText (t : Instant) : String := String.ofList (t.timeText ' ' [' ', 'U', 'T', 'C'])

def fraction (s : List Char) : Nat × List Char :=
  let (ds, rest) := takeDigits 9 s
  (ofDigits ds * Nat.pow 10 (9 - ds.length), rest.dropWhile Char.isDigit)

def readOptionalFraction : List Char → Option (Nat × List Char)
  | '.' :: c :: s => if c.isDigit then some (fraction (c :: s)) else none
  | ['.'] => none
  | s => some (0, s)

def expect (c : Char) (s : List Char) : Option (List Char) :=
  match trimLeft s with
  | d :: rest => if d = c then some rest else none
  | [] => none

def readPair : List Char → Option (Nat × List Char)
  | c :: d :: s =>
    if c.isDigit && d.isDigit then some (ofDigits [c, d], s) else none
  | _ => none

def readOffset (s : List Char) : Option (Int × List Char) :=
  match s with
  | 'Z' :: rest => some (0, rest)
  | 'z' :: rest => some (0, rest)
  | '+' :: rest => readHoursMinutes 1 rest
  | '-' :: rest => readHoursMinutes (-1) rest
  | '\u2212' :: rest => readHoursMinutes (-1) rest
  | u :: t :: c :: rest =>
    if [u, t, c].map Char.toUpper = ['U', 'T', 'C'] then some (0, rest) else none
  | _ => none
where
  readHoursMinutes (sign : Int) (s : List Char) : Option (Int × List Char) := do
    let (hours, s) ← readPair s
    let (minutes, s) ← readPair (s.dropWhile fun c => c == ':' || isBlank c)
    if minutes < 60 ∧ hours < 24 then some (sign * (hours * 3600 + minutes * 60 : Nat), s) else none

/-- The instant of a date and a time of day, given with the clock's lead over UTC. Second 60 is a
leap second in any minute. -/
def ofClock? (date : Date) (hour minute second nanos : Nat) (offset : Int) : Option Instant :=
  if hour < 24 ∧ minute < 60 ∧ second ≤ 60 then
    let (second, nanos) := if second = 60 then (59, nanos + nanosPerSecond) else (second, nanos)
    ofParts? (date.toDay * secondsPerDay + (hour * 3600 + minute * 60 + second : Nat) - offset) nanos
  else none

/-- Numbers need no padding and may have white space before them, as may the hyphens and colons. -/
def read? (s : List Char) : Option Instant := do
  let (year, s) ← Date.readYear s
  let s ← expect '-' s
  let (month, s) ← Date.readNumber 2 s
  let s ← expect '-' s
  let (day, s) ← Date.readNumber 2 s
  let date ← Date.checked? year month day
  let s ← join s
  let (hour, s) ← Date.readNumber 2 s
  let s ← expect ':' s
  let (minute, s) ← Date.readNumber 2 s
  let s ← expect ':' s
  let (second, s) ← Date.readNumber 2 s
  let (nanos, s) ← readOptionalFraction s
  let (offset, s) ← readOffset (trimLeft s)
  if allBlank s then ofClock? date hour minute second nanos offset else none
where
  join : List Char → Option (List Char)
    | c :: s => if c = 'T' ∨ c = 't' ∨ c = ' ' then some s else none
    | [] => none

/-- Whether a time with a fraction of a second may end so. A lead over UTC is measured in bytes, and
otherwise not looked at. -/
def endsFraction : List Char → Bool
  | [] => true
  | ['Z'] => true
  | '+' :: lead => byteLength lead == 5
  | _ => false

/-- Whether a time without a fraction of a second may end so. Up to five bytes after a `Z` do not
count. -/
def endsSeconds (zone : List Char) : Bool :=
  zone.isEmpty || zone == ['+', '0', '0', ':', '0', '0']
    || zone.head? == some 'Z' && byteLength zone ≤ 6

def readStrictEnd? : List Char → Option Nat
  | '.' :: s =>
    let (nanos, zone) := fraction s
    if endsFraction zone then some nanos else none
  | zone => if endsSeconds zone then some 0 else none

/-- A date and time in fixed columns, in UTC and from the year 1970 on. Second 60 is taken for
second 59, and the zone may be left out. -/
def readStrict? (s : List Char) : Option Instant := do
  let (century, s) ← readPair s
  let (year, s) ← readPair s
  let (month, s) ← field '-' s
  let (day, s) ← field '-' s
  let (hour, s) ← match s with
    | 'T' :: s => readPair s
    | ' ' :: s => readPair s
    | _ => none
  let (minute, s) ← field ':' s
  let (second, s) ← field ':' s
  let nanos ← readStrictEnd? s
  let date ← Date.checked? (century * 100 + year : Nat) month day
  if 1970 ≤ century * 100 + year ∧ second ≤ 60 then
    ofClock? date hour minute (min second 59) nanos 0
  else none
where
  field (sep : Char) : List Char → Option (Nat × List Char)
    | c :: s => if c = sep then readPair s else none
    | [] => none

end Instant
end SeriesBench.Time
