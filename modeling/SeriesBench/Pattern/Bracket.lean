import SeriesBench.Pattern.Escape

set_option autoImplicit false

namespace SeriesBench.Pattern
open SeriesBench.Text

/-- The sets that have been read between two operators, last one first. -/
structure Union where
  span : Span
  sets : List CharSet := []

namespace Union

def push (u : Union) (set : CharSet) : Union where
  span := ⟨if u.sets.isEmpty then set.span.start else u.span.start, set.span.stop⟩
  sets := set :: u.sets

def set (u : Union) : CharSet := CharSet.ofUnion u.span u.sets.reverse

end Union

inductive BracketFrame where
  | nested (outer : Union) (span : Span) (negated : Bool)
  | operator (op : SetOperation) (left : CharSet)

def unclosedFault (c : Cursor) : List BracketFrame → Fault
  | [] => { kind := .classUnclosed, span := c.here }
  | .nested _ span _ :: _ => { kind := .classUnclosed, span }
  | .operator _ _ :: rest => unclosedFault c rest

def asciiNames : List String :=
  ["alnum", "alpha", "ascii", "blank", "cntrl", "digit", "graph", "lower", "print", "punct",
    "space", "upper", "word", "xdigit"]

def readAscii? (c : Cursor) : Option (CharSet × Cursor) :=
  match c.rest with
  | '[' :: ':' :: rest =>
    let (negated, rest) := match rest with
      | '^' :: rest => (true, rest)
      | _ => (false, rest)
    let name := rest.takeWhile (· != ':')
    match rest.dropWhile (· != ':') with
    | ':' :: ']' :: _ =>
      if asciiNames.contains (String.ofList name) then
        let after := c.bumpMany (name.length + if negated then 5 else 4)
        some (.ascii (after.since c.position) negated, after)
      else none
    | _ => none
  | _ => none

def readHyphens : Nat → Position → Cursor → Union → Except Fault (Union × Cursor)
  | 0, _, c, u => .ok (u, c)
  | n + 1, start, c, u =>
    if c.char? = some '-' then
      if c.next.atEnd then .error { kind := .classUnclosed, span := .point start }
      else readHyphens n start c.next (u.push (.literal ⟨c.charSpan, '-', false⟩))
    else .ok (u, c)

def openBracket (fuel : Nat) (bracket : Cursor) :
    Except Fault (Span × Bool × Union × Cursor) := do
  let start := bracket.position
  let unclosed (c : Cursor) : Fault := { kind := .classUnclosed, span := c.since start }
  let c := bracket.next
  if c.atEnd then throw (unclosed c)
  let negated := c.char? == some '^'
  let c := if negated then c.next else c
  if c.atEnd then throw (unclosed c)
  let (u, c) ← readHyphens fuel start c { span := c.here }
  if u.sets.isEmpty && c.char? == some ']' then
    if c.next.atEnd then throw (unclosed c.next)
    return (c.next.since start, negated, u.push (.literal ⟨c.charSpan, ']', false⟩), c.next)
  return (c.since start, negated, u, c)

def readAtom (c : Cursor) : Except Fault (Atom × Cursor) :=
  match c.char? with
  | some '\\' => readEscape c
  | some x => .ok (.literal ⟨c.charSpan, x, false⟩, c.bump)
  | none => .error { kind := .escapeEnd, span := c.here }

def Atom.set (a : Atom) : Except Fault CharSet :=
  match a with
  | .literal l => .ok (.literal l)
  | .property span => .ok (.property span)
  | .perl span negated => .ok (.perl span negated)
  | a => .error { kind := .classEscape, span := a.span }

def Atom.bound (a : Atom) : Except Fault Literal :=
  match a with
  | .literal l => .ok l
  | a => .error { kind := .classRangeBound, span := a.span }

/-- Reads a member of a class or a range of characters. A hyphen in front of a bracket or of another
hyphen makes no range. -/
def readRange (frames : List BracketFrame) (c : Cursor) : Except Fault (CharSet × Cursor) := do
  let (first, c) ← readAtom c
  let c := c.skipBlank
  if c.atEnd then throw (unclosedFault c frames)
  if c.char? != some '-' || c.second? == some ']' || c.second? == some '-' then
    return (← first.set, c)
  let c := c.next
  if c.atEnd then throw (unclosedFault c frames)
  let (last, c) ← readAtom c
  let first ← first.bound
  let last ← last.bound
  if last.char < first.char then
    throw { kind := .classRange, span := ⟨first.span.start, last.span.stop⟩ }
  return (.range first last, c)

/-- The set up to here: what is left of an operator together with what has been read since. -/
def combine (u : Union) : List BracketFrame → CharSet × List BracketFrame
  | .operator op left :: rest => (.combined op left u.set, rest)
  | frames => (u.set, frames)

def operatorAt? : List Char → Option SetOperation
  | '&' :: '&' :: _ => some .intersection
  | '-' :: '-' :: _ => some .difference
  | '~' :: '~' :: _ => some .symmetricDifference
  | _ => none

def readClass : Nat → Union → List BracketFrame → Cursor → Except Fault (CharSet × Cursor)
  | 0, _, frames, c => .error (unclosedFault c frames)
  | fuel + 1, u, frames, c =>
    let c := c.skipBlank
    match c.char? with
    | none => .error (unclosedFault c frames)
    | some '[' =>
      match if frames.isEmpty then none else readAscii? c with
      | some (set, c) => readClass fuel (u.push set) frames c
      | none => do
        let (span, negated, inner, c) ← openBracket fuel c
        readClass fuel inner (.nested u span negated :: frames) c
    | some ']' =>
      let c := c.bump
      match combine u frames with
      | (set, .nested outer span negated :: rest) =>
        let closed := CharSet.bracketed (c.since span.start) negated set
        if rest.isEmpty then .ok (closed, c) else readClass fuel (outer.push closed) rest c
      | (set, _) => .ok (set, c)
    | some _ =>
      match operatorAt? c.rest with
      | some op =>
        let (left, frames) := combine u frames
        let c := c.bumpMany 2
        readClass fuel { span := c.here } (.operator op left :: frames) c
      | none => do
        let (set, c) ← readRange frames c
        readClass fuel (u.push set) frames c

def readBracket (fuel : Nat) (c : Cursor) : Except Fault (CharSet × Cursor) :=
  readClass fuel { span := c.here } [] c

end SeriesBench.Pattern
