import SeriesBench.Decimal.Shortest
import SeriesBench.Text.Utf8

set_option autoImplicit false

namespace SeriesBench
open SeriesBench.Text

inductive Value where
  | integer (n : Int64)
  | real (x : Float)
  | boolean (b : Bool)
  | text (s : String)
  | bytes (b : List UInt8)

namespace Value

def table : Value → String
  | .integer _ => "series_bigint"
  | .real _ => "series_double"
  | .boolean _ => "series_boolean"
  | .text _ => "series_blob"
  | .bytes _ => "series_blob"

def text? : Value → Option String
  | .text s => some s
  | _ => none

def number? : Value → Option Float
  | .integer n => some n.toFloat
  | .real x => some x
  | _ => none

def boolChars : Bool → List Char
  | true => "true".toList
  | false => "false".toList

def chars : Value → List Char
  | .integer n => signed n.toInt
  | .real x => Decimal.floatText x
  | .boolean b => boolChars b
  | .text s => s.toList
  | .bytes b => ofUtf8Lossy b

def isText : Value → Bool
  | .text _ => true
  | _ => false

/-- The value as it stands in a row: bytes are not read as text. -/
def rowBytes : Value → List UInt8
  | .bytes b => b
  | v => utf8 v.chars

end Value
end SeriesBench
