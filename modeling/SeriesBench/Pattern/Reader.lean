import SeriesBench.Pattern.Bracket
import SeriesBench.Text.Alphanumeric

set_option autoImplicit false

namespace SeriesBench.Pattern
open SeriesBench.Text

/-- The trees that have been read since the last bar or opening parenthesis, last one first. -/
structure Sequence where
  start : Position
  trees : List Tree := []

namespace Sequence

def push (s : Sequence) (t : Tree) : Sequence := { s with trees := t :: s.trees }

def tree (s : Sequence) (stop : Position) : Tree :=
  Tree.ofSequence ⟨s.start, stop⟩ s.trees.reverse

end Sequence

inductive GroupFrame where
  | group (before : Sequence) (span : Span) (items : List FlagItem) (ignoresBlank : Bool)
  | alternatives (start : Position) (trees : List Tree)

structure State where
  cursor : Cursor
  sequence : Sequence
  frames : List GroupFrame := []
  names : List (List Char × Span) := []

/-- Reads flags up to a colon or a closing parenthesis, after the items `done` with their spans,
last one first, of which the last one is a negation if `dangling`. -/
def readFlags : Nat → List (FlagItem × Span) → Bool → Cursor →
    Except Fault (List FlagItem × Cursor)
  | 0, _, _, c => .error { kind := .flagEnd, span := c.here }
  | fuel + 1, done, dangling, c =>
    match c.char? with
    | none => .error { kind := .flagEnd, span := c.here }
    | some x =>
      if x = ':' ∨ x = ')' then
        match done with
        | (_, span) :: _ =>
          if dangling then .error { kind := .flagDangling, span }
          else .ok (done.reverse.map (·.1), c)
        | [] => .ok ([], c)
      else do
        let item ←
          if x = '-' then pure FlagItem.negation
          else match Flag.ofChar? x with
            | some f => pure (FlagItem.flag f)
            | none => throw { kind := .flagUnknown, span := c.charSpan }
        match done.lookup item with
        | some earlier =>
          throw {
            kind := if item = .negation then .negationTwice else .flagTwice
            span := c.charSpan
            earlier := some earlier }
        | none => readFlags fuel ((item, c.charSpan) :: done) (item = .negation) c.bump

def maxFlags : Nat := 9

def isNameStart (c : Char) : Bool := c == '_' || isAlphabetic c

def isNameChar (c : Char) : Bool :=
  c == '_' || c == '.' || c == '[' || c == ']' || isAlphanumeric c

def readName (names : List (List Char × Span)) (c : Cursor) :
    Except Fault (List Char × Span × Cursor) := do
  let name := match c.rest with
    | x :: rest => if isNameStart x then x :: rest.takeWhile isNameChar else []
    | [] => []
  let after := c.bumpMany name.length
  match after.char? with
  | none => throw { kind := .groupNameEnd, span := after.here }
  | some '>' =>
    let span := after.since c.position
    if name.isEmpty then throw { kind := .groupNameEmpty, span }
    match names.lookup name with
    | some earlier => throw { kind := .groupNameTwice, span, earlier := some earlier }
    | none => return (name, span, after.bump)
  | some _ => throw { kind := .groupNameInvalid, span := after.charSpan }

def lookAround? (s : List Char) : Option Nat :=
  if ['?', '='].isPrefixOf s ∨ ['?', '!'].isPrefixOf s then some 2
  else if ['?', '<', '='].isPrefixOf s ∨ ['?', '<', '!'].isPrefixOf s then some 3
  else none

namespace State

def openGroup (s : State) (span : Span) (items : List FlagItem) (c : Cursor) : State where
  cursor := { c with
    ignoresBlank := (flagState? .ignoreWhitespace items).getD s.cursor.ignoresBlank }
  sequence := ⟨c.position, []⟩
  frames := .group s.sequence span items s.cursor.ignoresBlank :: s.frames
  names := s.names

def readParenthesis (s : State) : Except Fault State := do
  let span := s.cursor.charSpan
  let c := s.cursor.next
  if let some n := lookAround? c.rest then
    throw { kind := .lookAround, span := (c.bumpMany n).since span.start }
  if ['?', 'P', '<'].isPrefixOf c.rest || ['?', '<'].isPrefixOf c.rest then
    let c := c.bumpMany (if ['?', '<'].isPrefixOf c.rest then 2 else 3)
    let (name, nameSpan, c) ← readName s.names c
    return { s.openGroup span [] c with names := (name, nameSpan) :: s.names }
  if c.char? != some '?' then return s.openGroup span [] c
  let question := c
  let c := c.bump
  if c.atEnd then throw { kind := .groupUnclosed, span }
  let (items, c) ← readFlags maxFlags [] false c
  if c.char? == some ':' then return s.openGroup span items c.bump
  if items.isEmpty then throw { kind := .repetitionMissing, span := question.here }
  let c := c.bump
  return { s with
    cursor := { c with
      ignoresBlank := (flagState? .ignoreWhitespace items).getD c.ignoresBlank }
    sequence := s.sequence.push (.flags (c.since span.start) items) }

def addAlternative (s : State) : State :=
  let stop := s.cursor.position
  let tree := s.sequence.tree stop
  let frames := match s.frames with
    | .alternatives start trees :: rest => .alternatives start (tree :: trees) :: rest
    | frames => .alternatives s.sequence.start [tree] :: frames
  let c := s.cursor.bump
  { s with cursor := c, sequence := ⟨c.position, []⟩, frames }

def innermost (s : State) : Tree × List GroupFrame :=
  let stop := s.cursor.position
  let tree := s.sequence.tree stop
  match s.frames with
  | .alternatives start trees :: rest => (.alternatives ⟨start, stop⟩ (tree :: trees).reverse, rest)
  | frames => (tree, frames)

def closeGroup (s : State) : Except Fault State :=
  match s.innermost with
  | (body, .group before span items ignoresBlank :: frames) =>
    let c := s.cursor.bump
    let group := Tree.group (c.since span.start) items body
    .ok { s with cursor := { c with ignoresBlank }, sequence := before.push group, frames }
  | _ => .error { kind := .groupUnopened, span := s.cursor.charSpan }

def repeated (s : State) : Except Fault (Tree × List Tree) :=
  match s.sequence.trees with
  | t :: trees =>
    if t.isRepeatable then .ok (t, trees)
    else .error { kind := .repetitionMissing, span := s.cursor.here }
  | [] => .error { kind := .repetitionMissing, span := s.cursor.here }

def readRepetition (s : State) : Except Fault State := do
  let (t, trees) ← s.repeated
  let c := s.cursor.bump
  let c := if c.char? = some '?' then c.bump else c
  let repetition := Tree.repetition (c.since t.span.start) t
  return { s with cursor := c, sequence := { s.sequence with trees := repetition :: trees } }

def maxCount : Nat := 4294967295

def countFault (brace : Cursor) : Fault :=
  let first := brace.next
  let (_, first) := first.takeWhile isBlank
  let (ds, last) := first.takeWhile Char.isDigit
  let (_, c) := last.takeWhile isBlank
  if c.atEnd then { kind := .countUnclosed, span := c.since brace.position }
  else if ds.isEmpty then { kind := .countMissing, span := last.since first.position }
  else if maxCount < ofDigits ds then { kind := .decimal, span := last.since first.position }
  else { kind := .countUnclosed, span := c.since brace.position }

/-- Reads on from the character `c`, in no more steps than `fuel`. -/
def readNext (fuel : Nat) (s : State) (c : Char) : Except Fault State :=
  let span := s.cursor.charSpan
  let push (t : Tree) (cursor : Cursor) : State :=
    { s with cursor, sequence := s.sequence.push t }
  match c with
  | '(' => s.readParenthesis
  | ')' => s.closeGroup
  | '|' => .ok s.addAlternative
  | '[' => (readBracket fuel s.cursor).map fun r => push (.charSet r.1) r.2
  | '?' => s.readRepetition
  | '*' => s.readRepetition
  | '+' => s.readRepetition
  | '\x7b' => s.repeated.bind fun _ => .error (countFault s.cursor)
  | '\\' => (readEscape s.cursor).map fun r => push r.1.tree r.2
  | '.' => .ok (push (.dot span) s.cursor.bump)
  | '^' => .ok (push (.lineEdge span) s.cursor.bump)
  | '$' => .ok (push (.lineEdge span) s.cursor.bump)
  | c => .ok (push (.literal ⟨span, c, false⟩) s.cursor.bump)

def finish (s : State) : Except Fault Tree :=
  match s.innermost with
  | (tree, []) => .ok tree
  | (_, .group _ span _ _ :: _) => .error { kind := .groupUnclosed, span }
  | (tree, _) => .ok tree

def readAll : Nat → State → Except Fault Tree
  | 0, s => s.finish
  | fuel + 1, s =>
    let s := { s with cursor := s.cursor.skipBlank }
    match s.cursor.char? with
    | none => s.finish
    | some c => do readAll fuel (← s.readNext (fuel + 1) c)

end State

mutual

def CharSet.tooDeep? (room : Nat) : CharSet → Option Span
  | .bracketed span _ set => if room = 0 then some span else set.tooDeep? (room - 1)
  | .union span sets => if room = 0 then some span else CharSet.firstTooDeep? (room - 1) sets
  | .combined _ left right =>
    if room = 0 then some ⟨left.span.start, right.span.stop⟩
    else (left.tooDeep? (room - 1)).or (right.tooDeep? (room - 1))
  | _ => none

def CharSet.firstTooDeep? (room : Nat) : List CharSet → Option Span
  | [] => none
  | set :: rest => (set.tooDeep? room).or (CharSet.firstTooDeep? room rest)

end

mutual

def Tree.tooDeep? (room : Nat) : Tree → Option Span
  | .charSet set => set.tooDeep? room
  | .repetition span body => if room = 0 then some span else body.tooDeep? (room - 1)
  | .group span _ body => if room = 0 then some span else body.tooDeep? (room - 1)
  | .alternatives span trees =>
    if room = 0 then some span else Tree.firstTooDeep? (room - 1) trees
  | .sequence span trees => if room = 0 then some span else Tree.firstTooDeep? (room - 1) trees
  | _ => none

def Tree.firstTooDeep? (room : Nat) : List Tree → Option Span
  | [] => none
  | t :: rest => (t.tooDeep? room).or (Tree.firstTooDeep? room rest)

end

def Tree.ofPattern (pattern : List Char) : Except Fault Tree := do
  let start : State := { cursor := .ofPattern pattern, sequence := ⟨.first, []⟩ }
  let tree ← start.readAll (pattern.length + 1)
  match tree.tooDeep? nestingLimit with
  | some span => throw { kind := .nesting, span }
  | none => return tree

end SeriesBench.Pattern
