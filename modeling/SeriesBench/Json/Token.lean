import SeriesBench.Text.Number

set_option autoImplicit false

namespace SeriesBench.Json
open SeriesBench.Text

inductive Token where
  | leftBrace
  | rightBrace
  | leftBracket
  | rightBracket
  | comma
  | colon
  | null
  | bool (value : Bool)
  | number (literal : List Char)
  | text (units : List Nat)
deriving DecidableEq, Repr

def isSpace (c : Char) : Bool := c == ' ' || c == '\n' || c == '\r' || c == '\t'

def hexValue? (c : Char) : Option Nat :=
  if '0' ≤ c ∧ c ≤ '9' then some (c.toNat - '0'.toNat)
  else if 'a' ≤ c ∧ c ≤ 'f' then some (c.toNat - 'a'.toNat + 10)
  else if 'A' ≤ c ∧ c ≤ 'F' then some (c.toNat - 'A'.toNat + 10)
  else none

def hexUnit? (a b c d : Char) : Option Nat := do
  let a ← hexValue? a
  let b ← hexValue? b
  let c ← hexValue? c
  let d ← hexValue? d
  return ((a * 16 + b) * 16 + c) * 16 + d

def escapedUnit? : Char → Option Nat
  | '"' => some 0x22
  | '\\' => some 0x5C
  | '/' => some 0x2F
  | 'b' => some 0x08
  | 'f' => some 0x0C
  | 'n' => some 0x0A
  | 'r' => some 0x0D
  | 't' => some 0x09
  | _ => none

/-- The units up to the closing quote, last one first, in front of `units`, and what follows the
quote. -/
def readUnits : List Char → List Nat → Option (List Nat × List Char)
  | '"' :: rest, units => some (units, rest)
  | '\\' :: 'u' :: a :: b :: c :: d :: rest, units =>
    match hexUnit? a b c d with
    | some unit => readUnits rest (unit :: units)
    | none => none
  | '\\' :: c :: rest, units =>
    match escapedUnit? c with
    | some unit => readUnits rest (unit :: units)
    | none => none
  | c :: rest, units =>
    if c.toNat < 0x20 then none else readUnits rest (c.toNat :: units)
  | [], _ => none

def someDigits (s : List Char) : Option (List Char) :=
  match s.takeWhile Char.isDigit with
  | [] => none
  | _ => some (s.dropWhile Char.isDigit)

def afterWhole : List Char → Option (List Char)
  | '0' :: s => some s
  | s => someDigits s

def afterFraction : List Char → Option (List Char)
  | '.' :: s => someDigits s
  | s => some s

def afterExponent : List Char → Option (List Char)
  | e :: s =>
    if e = 'e' ∨ e = 'E' then
      match s with
      | '+' :: s => someDigits s
      | '-' :: s => someDigits s
      | s => someDigits s
    else some (e :: s)
  | [] => some []

def isNumber (literal : List Char) : Bool :=
  let unsigned := match literal with
    | '-' :: s => s
    | s => s
  (afterWhole unsigned >>= afterFraction >>= afterExponent) == some []

def isNumberChar (c : Char) : Bool :=
  c.isDigit || c == '-' || c == '+' || c == '.' || c == 'e' || c == 'E'

def nextToken? : List Char → Option (Token × List Char)
  | '\x7b' :: s => some (.leftBrace, s)
  | '\x7d' :: s => some (.rightBrace, s)
  | '[' :: s => some (.leftBracket, s)
  | ']' :: s => some (.rightBracket, s)
  | ',' :: s => some (.comma, s)
  | ':' :: s => some (.colon, s)
  | '"' :: s => (readUnits s []).map fun r => (.text r.1.reverse, r.2)
  | 'n' :: 'u' :: 'l' :: 'l' :: s => some (.null, s)
  | 't' :: 'r' :: 'u' :: 'e' :: s => some (.bool true, s)
  | 'f' :: 'a' :: 'l' :: 's' :: 'e' :: s => some (.bool false, s)
  | s =>
    let literal := s.takeWhile isNumberChar
    if isNumber literal then some (.number literal, s.dropWhile isNumberChar) else none

theorem length_lt_of_readUnits {s rest : List Char} {units read : List Nat}
    (h : readUnits s units = some (read, rest)) : rest.length < s.length := by
  fun_induction readUnits s units <;> simp_all <;> omega

theorem length_lt_of_nextToken? {s rest : List Char} {token : Token}
    (h : nextToken? s = some (token, rest)) : rest.length < s.length := by
  unfold nextToken? at h
  split at h
  case h_7 s =>
    obtain ⟨r, hr, h⟩ := Option.map_eq_some_iff.1 h
    have := length_lt_of_readUnits hr
    grind
  case h_11 =>
    cases s with
    | nil => simp [isNumber, afterWhole, someDigits] at h
    | cons c cs =>
      by_cases hc : isNumberChar c
      · have hle := (List.dropWhile_suffix isNumberChar (l := cs)).length_le
        dsimp only at h
        split at h
        · obtain ⟨_, rfl⟩ := Prod.mk.inj (Option.some.inj h)
          rw [List.dropWhile_cons_of_pos hc]
          exact Nat.lt_succ_of_le hle
        · exact absurd h (by simp)
      · simp [hc, isNumber, afterWhole, someDigits] at h
  all_goals grind

/-- The tokens at the front of a text, last one first, in front of `done`, and whether the text ends
behind them. -/
def readTokens (s : List Char) (done : List Token) : List Token × Bool :=
  match hs : s.dropWhile isSpace with
  | [] => (done, true)
  | c :: cs =>
    match ht : nextToken? (c :: cs) with
    | none => (done, false)
    | some (token, rest) =>
      have : rest.length < s.length := by
        have := (List.dropWhile_suffix isSpace (l := s)).length_le
        rw [hs] at this
        exact Nat.lt_of_lt_of_le (length_lt_of_nextToken? ht) this
      readTokens rest (token :: done)
termination_by s.length

def tokens? (s : List Char) : Option (List Token) :=
  match readTokens s [] with
  | (tokens, true) => some tokens.reverse
  | (_, false) => none

def leadingTokens (s : List Char) : List Token := (readTokens s []).1.reverse

end SeriesBench.Json
