import SeriesBench.Pattern.Span
import SeriesBench.Text.Blank

set_option autoImplicit false

namespace SeriesBench.Pattern
open SeriesBench.Text

structure Cursor where
  position : Position
  rest : List Char
  ignoresBlank : Bool

namespace Cursor

def ofPattern (pattern : List Char) : Cursor := ⟨.first, pattern, false⟩

def char? (c : Cursor) : Option Char := c.rest.head?

def atEnd (c : Cursor) : Bool := c.rest.isEmpty

def here (c : Cursor) : Span := .point c.position

def charSpan (c : Cursor) : Span :=
  ⟨c.position, (c.char?.map c.position.after).getD c.position⟩

def since (c : Cursor) (start : Position) : Span := ⟨start, c.position⟩

def bump (c : Cursor) : Cursor :=
  match c.rest with
  | [] => c
  | x :: rest => { c with position := c.position.after x, rest }

def bumpMany : Nat → Cursor → Cursor
  | 0, c => c
  | n + 1, c => bumpMany n c.bump

def blankSpace (inComment : Bool) (p : Position) : List Char → Position × List Char
  | [] => (p, [])
  | x :: rest =>
    if inComment then blankSpace (x != '\n') (p.after x) rest
    else if x = '#' then blankSpace true (p.after x) rest
    else if isBlank x then blankSpace false (p.after x) rest
    else (p, x :: rest)

def skipBlank (c : Cursor) : Cursor :=
  if c.ignoresBlank then
    let (position, rest) := blankSpace false c.position c.rest
    { c with position, rest }
  else c

def next (c : Cursor) : Cursor := c.bump.skipBlank

def takeUpTo (p : Char → Bool) : Nat → Cursor → List Char × Cursor
  | 0, c => ([], c)
  | n + 1, c =>
    match c.char? with
    | some x =>
      if p x then
        let (xs, c) := takeUpTo p n c.next
        (x :: xs, c)
      else ([], c)
    | none => ([], c)

def takeWhile (p : Char → Bool) (c : Cursor) : List Char × Cursor := c.takeUpTo p c.rest.length

def firstBeyond (inComment : Bool) : List Char → Option Char
  | [] => none
  | x :: rest =>
    if isBlank x then firstBeyond inComment rest
    else if x = '#' ∧ !inComment then firstBeyond true rest
    else some x

/-- The character after the next one, which is looked for behind blank space where that is ignored.
If there is blank space alone, its first character is taken. -/
def second? (c : Cursor) : Option Char :=
  let beyond := c.rest.tail
  if c.ignoresBlank then (firstBeyond false beyond).or beyond.head? else beyond.head?

end Cursor
end SeriesBench.Pattern
