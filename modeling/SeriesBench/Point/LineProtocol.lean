import SeriesBench.Point.Basic
import SeriesBench.Time.Interval

set_option autoImplicit false

/-!
# Line protocol

A point is a line `measurement,tag=value field=value,field=value timestamp`. Only text can be the
value of a tag, so tags with other values stand in front of the fields.
-/
namespace SeriesBench
open SeriesBench.Text

namespace LineProtocol

def escape (special : Char → Bool) (s : List Char) : List Char :=
  s.flatMap fun c => if special c then ['\\', c] else [c]

def measurementChars (s : String) : List Char := escape (fun c => c == ' ' || c == ',') s.toList

def keyChars (s : String) : List Char :=
  escape (fun c => c == ' ' || c == ',' || c == '=') s.toList

def stringChars (s : List Char) : List Char :=
  '"' :: escape (fun c => c == '\\' || c == '"') s ++ ['"']

/-- A whole number has an `i` after it, and text and bytes stand in quotes. -/
def fieldChars : Value → List Char
  | .integer n => signed n.toInt ++ ['i']
  | .text s => stringChars s.toList
  | .bytes b => stringChars (ofUtf8Lossy b)
  | v => v.chars

def tagPiece : String × Value → Option (List Char)
  | (key, .text s) => some (',' :: keyChars key ++ '=' :: keyChars s)
  | _ => none

def lineFields (p : Point) : List (String × Value) :=
  p.liveTags.filter (fun t => !t.2.isText) ++ p.liveFields

def fieldPieces (separator : Char) : List (String × Value) → List (List Char)
  | [] => []
  | (key, value) :: rest =>
    (separator :: keyChars key ++ ['=']) :: fieldChars value :: fieldPieces ',' rest

/-- A time that is no timestamp is left out. -/
def timePiece (p : Point) : List (List Char) :=
  match p.time.bind (·.timestamp?) with
  | some t => [' ' :: signed t.val]
  | none => []

/-- The line with its end, in pieces; a point without fields has none. -/
def pieces (p : Point) : List (List Char) :=
  if (lineFields p).isEmpty then []
  else
    measurementChars p.measurement :: p.liveTags.filterMap tagPiece
      ++ fieldPieces ' ' (lineFields p) ++ timePiece p ++ [['\n']]

end LineProtocol

def Point.text (p : Point) : String := String.ofList (LineProtocol.pieces p).flatten

end SeriesBench
