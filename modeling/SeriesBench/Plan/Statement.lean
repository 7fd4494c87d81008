import SeriesBench.Series.Id
import SeriesBench.Text.Blank

set_option autoImplicit false

namespace SeriesBench
open SeriesBench.Time

structure Statement where
  template : String
  seriesId : String
  bounds : Interval
  field : String
deriving DecidableEq

def Statement.text (s : Statement) : String :=
  s.template ++ " ['" ++ s.seriesId ++ "', " ++ toString s.bounds.start ++ ", "
    ++ toString s.bounds.stop ++ "] (field: " ++ s.field ++ ")"

structure Dialect where
  seriesColumn : String := "series_id"
  timeColumn : String := "timestamp_ns"
  valueColumn : String := "value"
deriving DecidableEq, Repr

namespace Dialect

/-- Without an aggregation the rows are selected, in the given order if there is one; an aggregation
gives one row and needs no order. -/
def template (d : Dialect) (aggregation table orderBy : String) : String :=
  let selection :=
    if aggregation.isEmpty then d.timeColumn ++ ", " ++ d.valueColumn
    else aggregation ++ "(" ++ d.valueColumn ++ ")"
  let order :=
    if aggregation.isEmpty && !orderBy.isEmpty then " ORDER BY " ++ orderBy else ""
  "SELECT " ++ selection ++ " FROM " ++ table ++ " WHERE " ++ d.seriesColumn ++ " = ? AND "
    ++ d.timeColumn ++ " >= ? AND " ++ d.timeColumn ++ " < ?" ++ order

def select (d : Dialect) (aggregation table id orderBy : String) (bounds : Interval) :
    Except PlanError Statement := do
  let field ← fieldLabel id
  return ⟨d.template aggregation table orderBy, id, bounds, field⟩

def newestFirst (d : Dialect) : String := d.timeColumn ++ " DESC"

def selectLatest (d : Dialect) (table id : String) (bounds : Interval) :
    Except PlanError Statement := do
  let s ← d.select "" table id d.newestFirst bounds
  return { s with template := s.template ++ " LIMIT 1" }

/-- Whether the order is that of the time column, newest row first. -/
def isNewestFirst (d : Dialect) (orderBy : String) : Bool :=
  match Text.words orderBy.toList with
  | [column, direction] =>
    String.ofList column == d.timeColumn && direction.map Char.toLower == ['d', 'e', 's', 'c']
  | _ => false

end Dialect
end SeriesBench
