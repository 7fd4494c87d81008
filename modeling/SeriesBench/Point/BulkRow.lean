import SeriesBench.Point.Basic
import SeriesBench.Series.Id
import SeriesBench.Time.Interval

set_option autoImplicit false

/-!
# Bulk-load rows

Each field of a point is a row `table,series id,timestamp,value`. The type of the value decides the
table, and the series id holds the UTC day of the point's time.
-/
namespace SeriesBench
open SeriesBench.Time SeriesBench.Text

inductive PointError where
  | noTime (measurement : String)
  | timeRange (measurement : String)
deriving DecidableEq, Repr

namespace BulkRow

def seriesIdOf (p : Point) (t : Instant) (field : String) : String :=
  seriesId p.measurement (p.liveTags.map fun tag => (tag.1, String.ofList tag.2.chars)) field t.date

def pieces (p : Point) (t : Instant) (timestamp : Timestamp) (field : String × Value) :
    List (List UInt8) :=
  [utf8 (field.2.table.toList ++ ',' :: (seriesIdOf p t field.1).toList ++
      ',' :: signed timestamp.val ++ [',']),
    field.2.rowBytes, utf8 ['\n']]

/-- The rows of a point, for which it needs a time even if it has no fields. -/
def rows (p : Point) : Except PointError (List (List (List UInt8))) :=
  match p.time with
  | none => .error (.noTime p.measurement)
  | some t =>
    match t.timestamp? with
    | none => .error (.timeRange p.measurement)
    | some timestamp => .ok (p.liveFields.map (pieces p t timestamp))

end BulkRow
end SeriesBench
