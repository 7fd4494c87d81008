import SeriesBench.Time.Rfc3339
import SeriesBench.Time.Duration

set_option autoImplicit false

namespace SeriesBench
open SeriesBench.Time
open SeriesBench.Text (NumberFault)

inductive SeriesIdFault where
  | segments
  | noMeasurement
  | noField
  | tagTerm
  | dayText
  | dayRange
  | noFieldSegment
deriving DecidableEq, Repr

inductive PlanError where
  | forEveryShape (spec : String)
  | forEveryCount (spec : String) (fault : NumberFault)
  | noMeasurement
  | noField
  | tagTerm (term : String)
  | bucketWidth (width : Duration)
  | backwardSpan (start stop : Int)
  | instantRange (t : Instant)
  | seriesId (id : String) (fault : SeriesIdFault)
  | aggregation (label : String)
deriving DecidableEq

inductive ErrorKind where
  | query
  | span
  | index
deriving DecidableEq, Repr

def PlanError.kind : PlanError → ErrorKind
  | .backwardSpan _ _ => .span
  | .instantRange _ => .span
  | .seriesId _ _ => .index
  | _ => .query

def SeriesIdFault.message : SeriesIdFault → String
  | .segments => "expected '<measurement,tags>#<field>#<day>'"
  | .noMeasurement => "empty measurement"
  | .noField => "empty field"
  | .tagTerm => "tag without '='"
  | .dayText => "unparseable day partition"
  | .dayRange => "day partition out of range"
  | .noFieldSegment => "no field segment"

def PlanError.message : PlanError → String
  | .forEveryShape spec =>
    "malformed for-every spec '" ++ spec ++ "': expected exactly '<tag>,<n>'"
  | .forEveryCount spec fault =>
    "unparseable count in for-every spec '" ++ spec ++ "': " ++ fault.message
  | .noMeasurement => "query has no measurement name"
  | .noField => "query has no field name"
  | .tagTerm term => "malformed tag predicate '" ++ term ++ "': expected '<key>=<value>'"
  | .bucketWidth width =>
    "group by duration " ++ width.briefText
      ++ " must be non-zero and fit in a nanosecond timestamp"
  | .backwardSpan start stop =>
    "invalid time span: start (" ++ toString start ++ ") is after end (" ++ toString stop ++ ")"
  | .instantRange t =>
    "timestamp " ++ t.offsetText ++ " cannot be represented in nanoseconds"
  | .seriesId id fault => "malformed series id '" ++ id ++ "': " ++ fault.message
  | .aggregation label =>
    "unsupported aggregation '" ++ label ++ "' for client-side aggregation"

end SeriesBench
