import SeriesBench.Series.Basic
import SeriesBench.Text.Split

set_option autoImplicit false

namespace SeriesBench
open SeriesBench.Time SeriesBench.Text

def seriesId (measurement : String) (tags : List (String × String)) (field : String) (day : Date) :
    String :=
  let tagText := String.join (tags.map fun t => "," ++ t.1 ++ "=" ++ t.2)
  measurement ++ tagText ++ "#" ++ field ++ "#" ++ String.ofList day.text

def dayInterval? (day : Int) : Option Interval := do
  let start ← Timestamp.ofInt? (day * secondsPerDay * nanosPerSecond)
  let stop ← Timestamp.ofInt? ((day + 1) * secondsPerDay * nanosPerSecond)
  Interval.between? start stop

def readTag (id : String) (term : List Char) : Except PlanError (String × String) :=
  match splitOnce '=' term with
  | some (key, value) => .ok (String.ofList key, String.ofList value)
  | none => .error (.seriesId id .tagTerm)

/-- Of two tags with one key the later one counts. -/
def Series.ofId (table id : String) : Except PlanError Series :=
  match split '#' id.toList with
  | [key, field, day] =>
    let (measurement, tags) := pieces (· == ',') key
    if measurement.isEmpty then .error (.seriesId id .noMeasurement)
    else if field.isEmpty then .error (.seriesId id .noField)
    else do
      let tags ← tags.mapM (readTag id)
      match Date.read? day with
      | none => .error (.seriesId id .dayText)
      | some date =>
        match dayInterval? date.toDay with
        | none => .error (.seriesId id .dayRange)
        | some interval =>
          .ok {
            table, id, interval
            measurement := String.ofList measurement
            field := String.ofList field
            tags := StringMap.ofList tags }
  | _ => .error (.seriesId id .segments)

def fieldLabel (id : String) : Except PlanError String :=
  match (split '#' id.toList).reverse with
  | _ :: field :: _ => .ok (String.ofList field)
  | _ => .error (.seriesId id .noFieldSegment)

end SeriesBench
