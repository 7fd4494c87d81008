import SeriesBench.Pattern.Meaning
import SeriesBench.Text.Alphanumeric
import SeriesBench.Text.Number
import SeriesBench.Text.Split
import SeriesBench.Text.Utf8

set_option autoImplicit false

/-!
# Log filters

A filter is a list of directives `target[span{field=value}]=level`, of which every part may be
missing. The value of a field is a number, a truth value or a pattern. Nothing is logged here, but a
filter that is not well-formed is refused.
-/
namespace SeriesBench.CommandLine
open SeriesBench.Text

inductive FilterFault where
  | malformed
  | level
  | value (pattern : List Char) (refusal : Pattern.Refusal)
  | cut
deriving DecidableEq, Repr

/-- A fault of a level is told as the fault and as its cause. The program comes to grief on a part
that is cut, without a text of its own. -/
def FilterFault.message? : FilterFault → Option String
  | .malformed => some "invalid filter directive"
  | .level => some (levelText ++ ": " ++ levelText)
  | .value pattern refusal => some ("invalid field filter: " ++ refusal.text pattern)
  | .cut => none
where
  levelText : String :=
    "error parsing level filter: expected one of \"off\", \"error\", \"warn\", \"info\", "
      ++ "\"debug\", \"trace\", or a number 0-5"

namespace LogFilter

def levelNames : List String := ["off", "error", "warn", "info", "debug", "trace"]

def isLevel (s : List Char) : Bool :=
  s.isEmpty || levelNames.contains (String.ofList (s.map Char.toLower)) ||
    match readNat 5 s with
    | .ok _ => true
    | .error _ => false

/-- What is wrong with a field, which may not be empty. What stands behind a second equals sign does
not count. -/
def checkField (field : List Char) : Except FilterFault Unit :=
  if field.isEmpty then .error .malformed
  else match split '=' field with
    | _ :: value :: _ =>
      if value = "true".toList ∨ value = "false".toList ∨ isReal value then .ok ()
      else match Pattern.refusal? value with
        | some refusal => .error (.value value refusal)
        | none => .ok ()
    | _ => .ok ()

inductive Part where
  | start
  | target
  | span (first : Nat)
  | field (first : Nat)
  | fields
  | afterSpan
  | level (first : Nat)
deriving DecidableEq, Repr

def cutOut (directive : List Char) (first stop : Nat) : Except FilterFault (List Char) :=
  match slice? first stop directive with
  | some s => .ok s
  | none => .error .cut

def Part.next (directive : List Char) (part : Part) (index : Nat) (c : Char) :
    Except FilterFault Part :=
  match part with
  | .start =>
    if c = '[' then .ok (.span (index + 1))
    else if c = '-' ∨ c = ':' ∨ c = '_' ∨ isAlphanumeric c then .ok .target
    else .error .malformed
  | .target =>
    if c = '=' then (cutOut directive 0 index).map fun _ => .level (index + 1)
    else if c = '[' then (cutOut directive 0 index).map fun _ => .span (index + 1)
    else .ok .target
  | .span first =>
    if c = ']' then (cutOut directive first index).map fun _ => .afterSpan
    else if c = '\x7b' then (cutOut directive first index).map fun _ => .field (index + 1)
    else .ok (.span first)
  | .field first =>
    if c = '\x7d' then do
      checkField (← cutOut directive first index)
      return .fields
    else .ok (.field first)
  | .fields => if c = ']' then .ok .afterSpan else .error .malformed
  | .afterSpan => if c = '=' then .ok (.level (index + 1)) else .error .malformed
  | .level first => .ok (.level first)

def readParts (directive : List Char) : List Char → Nat → Part → Except FilterFault Part
  | [], _, part => .ok part
  | c :: cs, index, part => do
    readParts directive cs (index + c.utf8Size) (← part.next directive index c)

/-- Reads a directive without the white space around it, but cuts its parts out of what there is as
far behind the front as if there had been no white space before them. -/
def checkDirective (directive : List Char) : Except FilterFault Unit := do
  match ← readParts directive (trimRight (trimLeft directive)) 0 .start with
  | .target => return
  | .afterSpan => return
  | .level first =>
    if isLevel (← cutOut directive first (byteLength directive)) then return else throw .level
  | _ => throw .malformed

/-- What is wrong with the first directive that is not well-formed. Empty ones do not count. -/
def fault? (filter : String) : Option FilterFault :=
  ((split ',' filter.toList).filter fun s => !s.isEmpty).findSome? fun directive =>
    match checkDirective directive with
    | .ok _ => none
    | .error fault => some fault

end LogFilter
end SeriesBench.CommandLine
