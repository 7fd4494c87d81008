import SeriesBench.Text.Split

set_option autoImplicit false

namespace SeriesBench.Pattern
open SeriesBench.Text

structure Position where
  line : Nat
  column : Nat
deriving DecidableEq, Repr

def Position.first : Position := ⟨1, 1⟩

def Position.after (p : Position) (c : Char) : Position :=
  if c = '\n' then ⟨p.line + 1, 1⟩ else ⟨p.line, p.column + 1⟩

structure Span where
  start : Position
  stop : Position
deriving DecidableEq, Repr

namespace Span

def point (p : Position) : Span := ⟨p, p⟩

def inOneLine (s : Span) : Bool := s.start.line == s.stop.line

def width (s : Span) : Nat := max 1 (s.stop.column - s.start.column)

def text (s : Span) : String :=
  "on line " ++ toString s.start.line ++ " (column " ++ toString s.start.column
    ++ ") through line " ++ toString s.stop.line ++ " (column " ++ toString (s.stop.column - 1)
    ++ ")"

end Span

/-- The lines of a text without their ends. What follows the last end is a line if it is not
empty. -/
def linesOf (s : List Char) : List (List Char) :=
  let lines := split '\n' s
  let ended := lines.dropLast.map fun line =>
    if line.getLast? = some '\r' then line.dropLast else line
  match lines.getLast? with
  | some [] => ended
  | some line => ended ++ [line]
  | none => ended

def numberWidth (pattern : List Char) : Nat :=
  let count := (linesOf pattern).length + if pattern.getLast? = some '\n' then 1 else 0
  if count ≤ 1 then 0 else (toString count).length

def carets : List Span → Nat → String
  | [], _ => ""
  | s :: rest, column =>
    let indent := s.start.column - column
    String.ofList (List.replicate indent ' ' ++ List.replicate s.width '^')
      ++ carets rest (column + indent + s.width)

def annotate (pattern : List Char) (spans : List Span) : String :=
  let width := numberWidth pattern
  let pad (n : Nat) : String := String.ofList (List.replicate n ' ')
  String.join <| (linesOf pattern).zipIdx.map fun (line, i) =>
    let number := toString (i + 1)
    let margin := if width = 0 then pad 4 else pad (width - number.length) ++ number ++ ": "
    let within := spans.filter fun s => s.inOneLine && s.start.line == i + 1
    margin ++ String.ofList line ++ "\n"
      ++ if within.isEmpty then "" else pad margin.length ++ carets within 1 ++ "\n"

end SeriesBench.Pattern
