import SeriesBench.Json.Token

set_option autoImplicit false

namespace SeriesBench
open SeriesBench.Text

inductive Json where
  | null
  | bool (value : Bool)
  | number (literal : List Char)
  | text (units : List Nat)
  | array (items : List Json)
  | object (members : List (List Nat × Json))

namespace Json

def ofString (s : String) : Json := .text (s.toList.map Char.toNat)

def ofNat (n : Nat) : Json := .number (digits n)

def ofStrings (items : List String) : Json := .array (items.map ofString)

def isHighHalf (unit : Nat) : Bool := 0xD800 ≤ unit && unit < 0xDC00

def isLowHalf (unit : Nat) : Bool := 0xDC00 ≤ unit && unit < 0xE000

/-- Joins the halves of surrogate pairs; a half on its own is no character. -/
def charsOfUnits? : List Nat → Option (List Char)
  | [] => some []
  | high :: low :: rest =>
    if isHighHalf high then
      if isLowHalf low then
        (charsOfUnits? rest).map
          (Char.ofNat (0x10000 + (high - 0xD800) * 0x400 + (low - 0xDC00)) :: ·)
      else none
    else if isLowHalf high then none
    else (charsOfUnits? (low :: rest)).map (Char.ofNat high :: ·)
  | [unit] => if isHighHalf unit || isLowHalf unit then none else some [Char.ofNat unit]

def stringOfUnits? (units : List Nat) : Option String := (charsOfUnits? units).map String.ofList

def string? : Json → Option String
  | .text units => stringOfUnits? units
  | _ => none

def word? : Json → Option UInt64
  | .number literal => ((readNat (UInt64.size - 1) literal).toOption).map UInt64.ofNat
  | _ => none

def list? {α : Type} (item? : Json → Option α) : Json → Option (List α)
  | .array items => items.mapM item?
  | _ => none

inductive OpenValue where
  | array (items : List Json)
  | object (members : List (List Nat × Json)) (key : List Nat)

/-- Reads on with the open values `stack`, innermost first, where `latest` is the value that was
completed last and is `none` if a value is due. -/
def build : List OpenValue → Option Json → List Token → Option Json
  | [], some v, [] => some v
  | stack, none, .null :: ts => build stack (some .null) ts
  | stack, none, .bool b :: ts => build stack (some (.bool b)) ts
  | stack, none, .number n :: ts => build stack (some (.number n)) ts
  | stack, none, .text s :: ts => build stack (some (.text s)) ts
  | stack, none, .leftBracket :: .rightBracket :: ts => build stack (some (.array [])) ts
  | stack, none, .leftBracket :: ts => build (.array [] :: stack) none ts
  | stack, none, .leftBrace :: .rightBrace :: ts => build stack (some (.object [])) ts
  | stack, none, .leftBrace :: .text key :: .colon :: ts => build (.object [] key :: stack) none ts
  | .array items :: stack, some v, .comma :: ts => build (.array (v :: items) :: stack) none ts
  | .array items :: stack, some v, .rightBracket :: ts =>
    build stack (some (.array (v :: items).reverse)) ts
  | .object members key :: stack, some v, .comma :: .text next :: .colon :: ts =>
    build (.object ((key, v) :: members) next :: stack) none ts
  | .object members key :: stack, some v, .rightBrace :: ts =>
    build stack (some (.object ((key, v) :: members).reverse)) ts
  | _, _, _ => none

def read? (s : List Char) : Option Json := (tokens? s).bind (build [] none)

def hex4 (n : Nat) : List Char :=
  let ds := Nat.toDigits 16 n
  List.replicate (4 - ds.length) '0' ++ ds

def renderUnit (unit : Nat) : List Char :=
  if unit = 0x22 then ['\\', '"']
  else if unit = 0x5C then ['\\', '\\']
  else if unit = 0x08 then ['\\', 'b']
  else if unit = 0x0C then ['\\', 'f']
  else if unit = 0x0A then ['\\', 'n']
  else if unit = 0x0D then ['\\', 'r']
  else if unit = 0x09 then ['\\', 't']
  else if unit < 0x20 || isHighHalf unit || isLowHalf unit then '\\' :: 'u' :: hex4 unit
  else [Char.ofNat unit]

def renderText (units : List Nat) : List Char := '"' :: units.flatMap renderUnit ++ ['"']

mutual

def render : Json → List Char
  | .null => ['n', 'u', 'l', 'l']
  | .bool true => ['t', 'r', 'u', 'e']
  | .bool false => ['f', 'a', 'l', 's', 'e']
  | .number literal => literal
  | .text units => renderText units
  | .array items => '[' :: renderItems items ++ [']']
  | .object members => '\x7b' :: renderMembers members ++ ['\x7d']

def renderItems : List Json → List Char
  | [] => []
  | [v] => render v
  | v :: w :: rest => render v ++ ',' :: renderItems (w :: rest)

def renderMembers : List (List Nat × Json) → List Char
  | [] => []
  | [(key, v)] => renderText key ++ ':' :: render v
  | (key, v) :: m :: rest => renderText key ++ ':' :: render v ++ ',' :: renderMembers (m :: rest)

end

end Json
end SeriesBench
