import SeriesBench.Text.Unprintable

set_option autoImplicit false

namespace SeriesBench.Text

def hexChars (n : Nat) : List Char := Nat.toDigits 16 n

def quotedChar (c : Char) : List Char :=
  match c with
  | '"' => ['\\', '"']
  | '\\' => ['\\', '\\']
  | '\n' => ['\\', 'n']
  | '\r' => ['\\', 'r']
  | '\t' => ['\\', 't']
  | '\x00' => ['\\', '0']
  | c => if isUnprintable c then '\\' :: 'u' :: '\x7b' :: hexChars c.toNat ++ ['\x7d'] else [c]

def quoted (s : String) : String :=
  String.ofList ('"' :: s.toList.flatMap quotedChar ++ ['"'])

def bracketed (items : List String) : String := "[" ++ String.intercalate ", " items ++ "]"

end SeriesBench.Text
