set_option autoImplicit false

namespace SeriesBench.Text

def digits (n : Nat) : List Char := Nat.toDigits 10 n

def padded (width n : Nat) : List Char :=
  List.replicate (width - (digits n).length) '0' ++ digits n

def signed (n : Int) : List Char :=
  if n < 0 then '-' :: digits n.natAbs else digits n.natAbs

def trimZeros (s : List Char) : List Char := (s.reverse.dropWhile (· == '0')).reverse

def digitValue (c : Char) : Nat := c.toNat - '0'.toNat

def takeDigits : Nat → List Char → List Char × List Char
  | 0, s => ([], s)
  | _, [] => ([], [])
  | limit + 1, c :: cs =>
    if c.isDigit then
      let rest := takeDigits limit cs
      (c :: rest.1, rest.2)
    else ([], c :: cs)

def ofDigits (ds : List Char) : Nat := Nat.ofDigitChars 10 ds 0

theorem ofDigits_digits (n : Nat) : ofDigits (digits n) = n :=
  Nat.ofDigitChars_toDigits (by decide) (by decide)

inductive NumberFault where
  | empty
  | notADigit
  | tooLarge
  | tooSmall
deriving DecidableEq, Repr

def NumberFault.message : NumberFault → String
  | .empty => "cannot parse integer from empty string"
  | .notADigit => "invalid digit found in string"
  | .tooLarge => "number too large to fit in target type"
  | .tooSmall => "number too small to fit in target type"

/-- Reads digits after the number `n`, up to `bound`; `beyond` is the fault of a larger number. -/
def readDigits (bound : Nat) (beyond : NumberFault) : List Char → Nat → Except NumberFault Nat
  | [], n => .ok n
  | c :: cs, n =>
    if c.isDigit then
      if 10 * n + digitValue c ≤ bound then readDigits bound beyond cs (10 * n + digitValue c)
      else .error beyond
    else .error .notADigit

def readNat (bound : Nat) : List Char → Except NumberFault Nat
  | [] => .error .empty
  | ['+'] => .error .notADigit
  | '+' :: cs => readDigits bound .tooLarge cs 0
  | cs => readDigits bound .tooLarge cs 0

def readInt (below above : Nat) : List Char → Except NumberFault Int
  | [] => .error .empty
  | ['+'] => .error .notADigit
  | ['-'] => .error .notADigit
  | '-' :: cs => (readDigits below .tooSmall cs 0).map fun n => -(n : Int)
  | '+' :: cs => (readDigits above .tooLarge cs 0).map Int.ofNat
  | cs => (readDigits above .tooLarge cs 0).map Int.ofNat

/-- Whether the text has the form of a real number: digits with a point among or around them and an
exponent, or a word for infinity or for no number, after a sign or without one. -/
def isReal (s : List Char) : Bool :=
  let unsigned := match s with
    | '+' :: rest => rest
    | '-' :: rest => rest
    | s => s
  let lower := String.ofList (unsigned.map Char.toLower)
  lower == "inf" || lower == "infinity" || lower == "nan" || isDecimal unsigned
where
  isExponent : List Char → Bool
    | [] => true
    | e :: s =>
      let ds := match s with
        | '+' :: rest => rest
        | '-' :: rest => rest
        | s => s
      (e == 'e' || e == 'E') && !ds.isEmpty && ds.all Char.isDigit
  isDecimal (s : List Char) : Bool :=
    let whole := s.takeWhile Char.isDigit
    match s.dropWhile Char.isDigit with
    | '.' :: rest =>
      !(whole.isEmpty && (rest.takeWhile Char.isDigit).isEmpty)
        && isExponent (rest.dropWhile Char.isDigit)
    | rest => !whole.isEmpty && isExponent rest

end SeriesBench.Text
