import SeriesBench.Pattern.Cursor
import SeriesBench.Pattern.Fault
import SeriesBench.Pattern.Tree
import SeriesBench.Text.Number

set_option autoImplicit false

namespace SeriesBench.Pattern
open SeriesBench.Text

inductive Atom where
  | literal (l : Literal)
  | dot (span : Span)
  | lineEdge (span : Span)
  | textEdge (span : Span)
  | wordEdge (span : Span)
  | property (span : Span)
  | perl (span : Span) (negated : Bool)
deriving DecidableEq, Repr

namespace Atom

def tree : Atom → Tree
  | .literal l => .literal l
  | .dot span => .dot span
  | .lineEdge span => .lineEdge span
  | .textEdge span => .textEdge span
  | .wordEdge span => .wordEdge span
  | .property span => .property span
  | .perl span negated => .perl span negated

def span (a : Atom) : Span := a.tree.span

end Atom

def isMeta (c : Char) : Bool :=
  ['\\', '.', '+', '*', '?', '(', ')', '|', '[', ']', '\x7b', '\x7d', '^', '$', '#', '&', '-',
    '~'].contains c

def isEscapable (c : Char) : Bool :=
  isMeta c || c.toNat < 0x80 && !c.isAlphanum && c != '<' && c != '>'

def isHex (c : Char) : Bool := c.isDigit || 'a' ≤ c && c ≤ 'f' || 'A' ≤ c && c ≤ 'F'

def hexDigit (c : Char) : Nat :=
  if c.isDigit then c.toNat - '0'.toNat else c.toLower.toNat - 'a'.toNat + 10

def controlOf? : Char → Option Char
  | 'a' => some '\x07'
  | 'f' => some '\x0c'
  | 't' => some '\t'
  | 'n' => some '\n'
  | 'r' => some '\r'
  | 'v' => some '\x0b'
  | _ => none

def hexWidth : Char → Nat
  | 'x' => 2
  | 'u' => 4
  | _ => 8

def readHexDigits : Nat → Cursor → List Char → Except Fault (List Char × Cursor)
  | 0, c, done => .ok (done.reverse, c)
  | missing + 1, c, done =>
    match c.char? with
    | none => .error { kind := .escapeEnd, span := c.here }
    | some x =>
      if isHex x then readHexDigits missing c.next (x :: done)
      else .error { kind := .hexDigit, span := c.charSpan }

/-- Patterns hold no closing braces, so hexadecimal digits behind a brace are always at fault. -/
def bracedHexFault (brace : Cursor) : Fault :=
  let (_, c) := brace.next.takeWhile isHex
  if c.atEnd then { kind := .escapeEnd, span := c.since brace.position }
  else { kind := .hexDigit, span := c.charSpan }

def readHex (start : Position) (letter : Char) (c : Cursor) : Except Fault (Atom × Cursor) :=
  let first := c.next
  match first.char? with
  | none => .error { kind := .escapeEnd, span := first.here }
  | some '\x7b' => .error (bracedHexFault first)
  | some _ => do
    let (digits, c) ← readHexDigits (hexWidth letter) first []
    let n := digits.foldl (fun n d => n * 16 + hexDigit d) 0
    if n.isValidChar then
      return (.literal ⟨c.since start, Char.ofNat n, letter == 'x'⟩, c)
    else throw { kind := .hexScalar, span := c.since first.position }

def readProperty (start : Position) (c : Cursor) : Except Fault (Atom × Cursor) :=
  let c := c.next
  match c.char? with
  | none => .error { kind := .escapeEnd, span := c.here }
  | some '\x7b' => .error { kind := .escapeEnd, span := (c.takeWhile fun _ => true).2.here }
  | some '\\' => .error { kind := .propertyInvalid, span := c.charSpan }
  | some _ => .ok (.property (c.next.since start), c.next)

def isBoundaryNameChar (c : Char) : Bool := c.isAlpha || c == '-'

/-- The fault of a brace after the escape of a word boundary, if it is taken for the front of the
name of a special one. -/
def boundaryNameFault? (start : Position) (brace : Cursor) : Option Fault :=
  let c := brace.next
  match c.char? with
  | none => some { kind := .wordBoundaryEnd, span := c.since start }
  | some x =>
    if isBoundaryNameChar x then
      some {
        kind := .wordBoundaryUnclosed
        span := (c.takeWhile isBoundaryNameChar).2.since brace.position }
    else none

def readEscape (backslash : Cursor) : Except Fault (Atom × Cursor) :=
  let start := backslash.position
  let c := backslash.bump
  let after := c.bump
  let span := after.since start
  match c.char? with
  | none => .error { kind := .escapeEnd, span := c.since start }
  | some x =>
    if x.isDigit then .error { kind := .backreference, span }
    else if x ∈ ['x', 'u', 'U'] then readHex start x c
    else if x ∈ ['p', 'P'] then readProperty start c
    else if x ∈ ['d', 's', 'w'] then .ok (.perl span false, after)
    else if x ∈ ['D', 'S', 'W'] then .ok (.perl span true, after)
    else if isEscapable x then .ok (.literal ⟨span, x, false⟩, after)
    else if x ∈ ['A', 'z'] then .ok (.textEdge span, after)
    else if x = 'b' then
      match if after.char? = some '\x7b' then boundaryNameFault? start after else none with
      | some fault => .error fault
      | none => .ok (.wordEdge span, after)
    else if x ∈ ['B', '<', '>'] then .ok (.wordEdge span, after)
    else match controlOf? x with
      | some control => .ok (.literal ⟨span, control, false⟩, after)
      | none => .error { kind := .escapeUnknown, span }

end SeriesBench.Pattern
