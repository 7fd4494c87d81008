import SeriesBench.Pattern.Reader

set_option autoImplicit false

/-!
# What patterns mean

A pattern that can be read may still ask for what there is not: tables of Unicode for classes and
for letters of either case, or bytes that are no text. `Tree.meaning` finds the first such place,
where flags hold from where they stand to the end of their group.
-/
namespace SeriesBench.Pattern
open SeriesBench.Text

/-- The flags in force, as far as they matter here, and whether the edges of words are told by the
letters of Unicode somewhere. -/
structure Meaning where
  unicode : Bool := true
  caseInsensitive : Bool := false
  unicodeWords : Bool := false
deriving DecidableEq, Repr

namespace Meaning

def set (m : Meaning) (items : List FlagItem) : Meaning :=
  { m with
    unicode := (flagState? .unicode items).getD m.unicode
    caseInsensitive := (flagState? .caseInsensitive items).getD m.caseInsensitive }

end Meaning

/-- What is known of the characters in a class: whether there are none or all of them, which are
sets that no letter's other case is missing from. -/
inductive Cover where
  | none
  | all
  | some
deriving DecidableEq, Repr

namespace Cover

def union : Cover → Cover → Cover
  | .none, c => c
  | c, .none => c
  | .all, .all => .all
  | _, _ => .some

def negate : Cover → Cover
  | .none => .all
  | .all => .none
  | .some => .some

def combine : SetOperation → Cover → Cover → Cover
  | .intersection, .none, _ => .none
  | .intersection, _, .none => .none
  | .intersection, .all, c => c
  | .difference, .none, _ => .none
  | .difference, c, .none => c
  | .difference, _, .all => .none
  | .symmetricDifference, .none, c => c
  | .symmetricDifference, c, .none => c
  | .symmetricDifference, .all, .all => .none
  | _, _, _ => .some

/-- Adds the other cases of letters to a class, for which there is no table. -/
def fold (m : Meaning) (span : Span) (c : Cover) : Except Fault Cover :=
  if m.caseInsensitive && c == .some then .error { kind := .caseFolding, span } else .ok c

end Cover

namespace Literal

/-- A byte beyond ASCII may be asked for only where that is a character's number. -/
def checkByte (m : Meaning) (l : Literal) : Except Fault Unit :=
  if !m.unicode && l.isByte && 0x80 ≤ l.char.toNat then
    .error { kind := .invalidUtf8, span := l.span }
  else .ok ()

def checkMember (m : Meaning) (l : Literal) : Except Fault Unit := do
  l.checkByte m
  if !m.unicode && 0x80 ≤ l.char.toNat then
    throw { kind := .unicodeNotAllowed, span := l.span }

end Literal

def checkNegation (m : Meaning) (span : Span) (negated : Bool) : Except Fault Unit :=
  if !m.unicode && negated then .error { kind := .invalidUtf8, span } else .ok ()

def checkPerl (m : Meaning) (span : Span) (negated : Bool) : Except Fault Unit :=
  if m.unicode then .error { kind := .perlClass, span } else checkNegation m span negated

def propertyFault (m : Meaning) (span : Span) : Fault :=
  { kind := if m.unicode then .propertyUnknown else .unicodeNotAllowed, span }

def foldCase (m : Meaning) (span : Span) (c : Cover) : Except Fault Cover :=
  if m.unicode then c.fold m span else .ok c

mutual

def CharSet.cover (m : Meaning) : CharSet → Except Fault Cover
  | .empty _ => .ok .none
  | .literal l => do
    l.checkMember m
    return .some
  | .range first last => do
    first.checkMember m
    last.checkMember m
    return .some
  | .ascii span negated => do
    let _ ← foldCase m span .some
    checkNegation m span negated
    return .some
  | .property span => .error (propertyFault m span)
  | .perl span negated => do
    checkPerl m span negated
    return .some
  | .bracketed span negated set => do
    let c ← foldCase m span (← set.cover m)
    checkNegation m span negated
    return if negated then c.negate else c
  | .union _ sets => CharSet.coverAll m sets
  | .combined op left right => do
    let l ← left.cover m
    let r ← right.cover m
    let r ← foldCase m right.span r
    let l ← foldCase m left.span l
    return l.combine op r

def CharSet.coverAll (m : Meaning) : List CharSet → Except Fault Cover
  | [] => .ok .none
  | set :: rest => do
    let c ← set.cover m
    return c.union (← CharSet.coverAll m rest)

end

mutual

def Tree.meaning (m : Meaning) : Tree → Except Fault Meaning
  | .empty _ => .ok m
  | .flags _ items => .ok (m.set items)
  | .literal l => do
    l.checkByte m
    if m.unicode && m.caseInsensitive then throw { kind := .caseFolding, span := l.span }
    return m
  | .dot span => if m.unicode then .ok m else .error { kind := .invalidUtf8, span }
  | .lineEdge _ => .ok m
  | .textEdge _ => .ok m
  | .wordEdge _ => .ok { m with unicodeWords := m.unicodeWords || m.unicode }
  | .property span => .error (propertyFault m span)
  | .perl span negated => do
    checkPerl m span negated
    return m
  | .charSet set => do
    let _ ← set.cover m
    return m
  | .repetition _ body => body.meaning m
  | .group _ items body => do
    let inner ← body.meaning (m.set items)
    return { m with unicodeWords := inner.unicodeWords }
  | .alternatives _ trees => Tree.meaningOfAll m trees
  | .sequence _ trees => Tree.meaningOfAll m trees

def Tree.meaningOfAll (m : Meaning) : List Tree → Except Fault Meaning
  | [] => .ok m
  | t :: rest => do Tree.meaningOfAll (← t.meaning m) rest

end

inductive Refusal where
  | fault (f : Fault)
  | unicodeWords
deriving DecidableEq, Repr

def refusal? (pattern : List Char) : Option Refusal :=
  match (Tree.ofPattern pattern).bind fun t => t.meaning {} with
  | .ok m => if m.unicodeWords then some .unicodeWords else none
  | .error f => some (.fault f)

def Refusal.text (pattern : List Char) : Refusal → String
  | .fault f => "error building NFA: error building NFA: error parsing regex: " ++ f.text pattern
  | .unicodeWords => unicodeWordsText ++ ": " ++ unicodeWordsText
where
  unicodeWordsText : String :=
    "unsupported regex feature for DFAs: cannot build DFAs for regexes with Unicode word "
      ++ "boundaries; switch to ASCII word boundaries, or heuristically enable Unicode word "
      ++ "boundaries or use a different regex engine"

end SeriesBench.Pattern
