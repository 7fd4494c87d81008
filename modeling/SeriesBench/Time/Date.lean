import SeriesBench.Text.Blank
import SeriesBench.Text.Number

set_option autoImplicit false

namespace SeriesBench.Time
open SeriesBench.Text

structure Date where
  year : Int
  month : Nat
  day : Nat
deriving DecidableEq, Repr

namespace Date

def isLeap (year : Int) : Bool := year % 4 == 0 && (year % 100 != 0 || year % 400 == 0)

def monthLength (year : Int) : Nat → Nat
  | 2 => if isLeap year then 29 else 28
  | 4 => 30
  | 6 => 30
  | 9 => 30
  | 11 => 30
  | _ => 31

def Valid (d : Date) : Prop :=
  1 ≤ d.month ∧ d.month ≤ 12 ∧ 1 ≤ d.day ∧ d.day ≤ monthLength d.year d.month

instance (d : Date) : Decidable d.Valid := by unfold Valid; infer_instance

def daysBeforeYear (year : Int) : Int :=
  365 * (year - 1) + (year - 1) / 4 - (year - 1) / 100 + (year - 1) / 400

def daysOfMonths (year : Int) : Nat → Nat
  | 0 => 0
  | count + 1 => daysOfMonths year count + monthLength year (count + 1)

def epochOffset : Int := 719162

def toDay (d : Date) : Int :=
  daysBeforeYear d.year + daysOfMonths d.year (d.month - 1) + (d.day - 1) - epochOffset

def yearOf (n : Int) : Int × Nat :=
  let inEra := n % 146097
  let century := min (inEra / 36524) 3
  let inCentury := inEra - 36524 * century
  let leapCycle := inCentury / 1461
  let inCycle := inCentury - 1461 * leapCycle
  let year := min (inCycle / 365) 3
  (400 * (n / 146097) + 100 * century + 4 * leapCycle + year + 1, (inCycle - 365 * year).toNat)

/-- The month and day that lie `rest` days after the first day of `month`, which has at most
`later` months after it. -/
def monthAndDay (year : Int) : Nat → Nat → Nat → Nat × Nat
  | 0, month, rest => (month, rest + 1)
  | later + 1, month, rest =>
    if rest < monthLength year month then (month, rest + 1)
    else monthAndDay year later (month + 1) (rest - monthLength year month)

def ofDay (n : Int) : Date :=
  let (year, rest) := yearOf (n + epochOffset)
  let (month, day) := monthAndDay year 11 1 rest
  ⟨year, month, day⟩

def minYear : Int := -262143

def maxYear : Int := 262142

def yearText (year : Int) : List Char :=
  if year < 0 then '-' :: padded 4 year.natAbs
  else if year ≤ 9999 then padded 4 year.natAbs
  else '+' :: padded 4 year.natAbs

def text (d : Date) : List Char :=
  yearText d.year ++ '-' :: padded 2 d.month ++ '-' :: padded 2 d.day

def readNumber (limit : Nat) (s : List Char) : Option (Nat × List Char) :=
  match takeDigits limit (trimLeft s) with
  | ([], _) => none
  | (ds, rest) => some (ofDigits ds, rest)

/-- A year has at most four digits unless it carries a sign. -/
def readYear (s : List Char) : Option (Int × List Char) :=
  match trimLeft s with
  | '-' :: rest => (readDigitRun rest).map fun (n, rest) => (-(n : Int), rest)
  | '+' :: rest => (readDigitRun rest).map fun (n, rest) => ((n : Int), rest)
  | rest => (readNumber 4 rest).map fun (n, rest) => ((n : Int), rest)
where
  readDigitRun (s : List Char) : Option (Nat × List Char) :=
    match takeDigits s.length s with
    | ([], _) => none
    | (ds, rest) => some (ofDigits ds, rest)

/-- A date that is on the calendar and in the years that instants can have. -/
def checked? (year : Int) (month day : Nat) : Option Date :=
  let d : Date := ⟨year, month, day⟩
  if d.Valid ∧ minYear ≤ year ∧ year ≤ maxYear then some d else none

def read? (s : List Char) : Option Date := do
  let (year, s) ← readYear s
  let s ← expect s
  let (month, s) ← readNumber 2 s
  let s ← expect s
  let (day, s) ← readNumber 2 s
  if s.isEmpty then checked? year month day else none
where
  expect : List Char → Option (List Char)
    | '-' :: s => some s
    | _ => none

end Date
end SeriesBench.Time
