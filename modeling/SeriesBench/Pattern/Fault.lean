import SeriesBench.Pattern.Span

set_option autoImplicit false

namespace SeriesBench.Pattern

inductive FaultKind where
  | backreference
  | classEscape
  | classRange
  | classRangeBound
  | classUnclosed
  | countUnclosed
  | countMissing
  | decimal
  | escapeEnd
  | escapeUnknown
  | flagDangling
  | flagEnd
  | flagTwice
  | flagUnknown
  | groupNameEmpty
  | groupNameEnd
  | groupNameInvalid
  | groupNameTwice
  | groupUnclosed
  | groupUnopened
  | hexDigit
  | hexScalar
  | lookAround
  | negationTwice
  | nesting
  | propertyInvalid
  | repetitionMissing
  | wordBoundaryEnd
  | wordBoundaryUnclosed
  | caseFolding
  | invalidUtf8
  | perlClass
  | propertyUnknown
  | unicodeNotAllowed
deriving DecidableEq, Repr

def nestingLimit : Nat := 250

def FaultKind.message : FaultKind → String
  | .backreference => "backreferences are not supported"
  | .classEscape => "invalid escape sequence found in character class"
  | .classRange => "invalid character class range, the start must be <= the end"
  | .classRangeBound => "invalid range boundary, must be a literal"
  | .classUnclosed => "unclosed character class"
  | .countUnclosed => "unclosed counted repetition"
  | .countMissing => "repetition quantifier expects a valid decimal"
  | .decimal => "decimal literal invalid"
  | .escapeEnd => "incomplete escape sequence, reached end of pattern prematurely"
  | .escapeUnknown => "unrecognized escape sequence"
  | .flagDangling => "dangling flag negation operator"
  | .flagEnd => "expected flag but got end of regex"
  | .flagTwice => "duplicate flag"
  | .flagUnknown => "unrecognized flag"
  | .groupNameEmpty => "empty capture group name"
  | .groupNameEnd => "unclosed capture group name"
  | .groupNameInvalid => "invalid capture group character"
  | .groupNameTwice => "duplicate capture group name"
  | .groupUnclosed => "unclosed group"
  | .groupUnopened => "unopened group"
  | .hexDigit => "invalid hexadecimal digit"
  | .hexScalar => "hexadecimal literal is not a Unicode scalar value"
  | .lookAround => "look-around, including look-ahead and look-behind, is not supported"
  | .negationTwice => "flag negation operator repeated"
  | .nesting =>
    "exceed the maximum number of nested parentheses/brackets (" ++ toString nestingLimit ++ ")"
  | .propertyInvalid => "invalid Unicode character class"
  | .repetitionMissing => "repetition operator missing expression"
  | .wordBoundaryEnd =>
    "found either the beginning of a special word boundary or a bounded repetition on a \\b with "
      ++ "an opening brace, but no closing brace"
  | .wordBoundaryUnclosed =>
    "special word boundary assertion is either unclosed or contains an invalid character"
  | .caseFolding =>
    "Unicode-aware case insensitivity matching is not available (make sure the unicode-case "
      ++ "feature is enabled)"
  | .invalidUtf8 => "pattern can match invalid UTF-8"
  | .perlClass =>
    "Unicode-aware Perl class not found (make sure the unicode-perl feature is enabled)"
  | .propertyUnknown => "Unicode property not found"
  | .unicodeNotAllowed => "Unicode not allowed here"

structure Fault where
  kind : FaultKind
  span : Span
  earlier : Option Span := none
deriving DecidableEq, Repr

namespace Fault

def spans (f : Fault) : List Span := f.earlier.toList ++ [f.span]

/-- The pattern with the fault marked in it, and what is wrong. A pattern of several lines stands
between rules, and a span that goes over lines is told in words. -/
def text (f : Fault) (pattern : List Char) : String :=
  let marked := annotate pattern f.spans
  let body :=
    if pattern.contains '\n' then
      let rule := String.ofList (List.replicate 79 '~') ++ "\n"
      let long := (f.spans.filter fun s => !s.inOneLine).map fun s => s.text ++ "\n"
      rule ++ marked ++ rule ++ String.join long
    else marked
  "regex parse error:\n" ++ body ++ "error: " ++ f.kind.message

end Fault
end SeriesBench.Pattern
