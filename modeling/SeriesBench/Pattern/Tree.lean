import SeriesBench.Pattern.Span

set_option autoImplicit false

namespace SeriesBench.Pattern

structure Literal where
  span : Span
  char : Char
  isByte : Bool
deriving DecidableEq, Repr

inductive SetOperation where
  | intersection
  | difference
  | symmetricDifference
deriving DecidableEq, Repr

inductive CharSet where
  | empty (span : Span)
  | literal (l : Literal)
  | range (first last : Literal)
  | ascii (span : Span) (negated : Bool)
  | property (span : Span)
  | perl (span : Span) (negated : Bool)
  | bracketed (span : Span) (negated : Bool) (set : CharSet)
  | union (span : Span) (sets : List CharSet)
  | combined (op : SetOperation) (left right : CharSet)

def CharSet.span : CharSet → Span
  | .empty span => span
  | .literal l => l.span
  | .range first last => ⟨first.span.start, last.span.stop⟩
  | .ascii span _ => span
  | .property span => span
  | .perl span _ => span
  | .bracketed span _ _ => span
  | .union span _ => span
  | .combined _ left right => ⟨left.span.start, right.span.stop⟩

inductive Flag where
  | caseInsensitive
  | multiLine
  | dotMatchesNewLine
  | swapGreed
  | unicode
  | crlf
  | ignoreWhitespace
deriving DecidableEq, Repr

def Flag.ofChar? : Char → Option Flag
  | 'i' => some .caseInsensitive
  | 'm' => some .multiLine
  | 's' => some .dotMatchesNewLine
  | 'U' => some .swapGreed
  | 'u' => some .unicode
  | 'R' => some .crlf
  | 'x' => some .ignoreWhitespace
  | _ => none

inductive FlagItem where
  | negation
  | flag (f : Flag)
deriving DecidableEq, Repr

/-- Whether the items set the flag or, behind a negation, clear it, if they name it. -/
def flagState? (f : Flag) : List FlagItem → Option Bool
  | [] => none
  | .negation :: rest => if rest.contains (.flag f) then some false else none
  | .flag g :: rest => if g = f then some true else flagState? f rest

inductive Tree where
  | empty (span : Span)
  | flags (span : Span) (items : List FlagItem)
  | literal (l : Literal)
  | dot (span : Span)
  | lineEdge (span : Span)
  | textEdge (span : Span)
  | wordEdge (span : Span)
  | property (span : Span)
  | perl (span : Span) (negated : Bool)
  | charSet (set : CharSet)
  | repetition (span : Span) (body : Tree)
  | group (span : Span) (items : List FlagItem) (body : Tree)
  | alternatives (span : Span) (trees : List Tree)
  | sequence (span : Span) (trees : List Tree)

namespace Tree

def span : Tree → Span
  | .empty span => span
  | .flags span _ => span
  | .literal l => l.span
  | .dot span => span
  | .lineEdge span => span
  | .textEdge span => span
  | .wordEdge span => span
  | .property span => span
  | .perl span _ => span
  | .charSet set => set.span
  | .repetition span _ => span
  | .group span _ _ => span
  | .alternatives span _ => span
  | .sequence span _ => span

def isRepeatable : Tree → Bool
  | .empty _ => false
  | .flags _ _ => false
  | _ => true

def ofSequence (span : Span) : List Tree → Tree
  | [] => .empty span
  | [t] => t
  | trees => .sequence span trees

end Tree

def CharSet.ofUnion (span : Span) : List CharSet → CharSet
  | [] => .empty span
  | [s] => s
  | sets => .union span sets

end SeriesBench.Pattern
