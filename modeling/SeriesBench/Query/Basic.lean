import SeriesBench.Query.ForEvery
import SeriesBench.Query.Span
import SeriesBench.Query.TagFilter

set_option autoImplicit false

namespace SeriesBench
open SeriesBench.Time

structure Query where
  id : UInt64 := 0
  label : String := ""
  description : String := ""
  measurementName : String
  fieldNames : String
  /-- Empty for a query of raw rows. -/
  aggregation : String := ""
  timeStart : Instant
  timeEnd : Instant
  /-- Zero if the query is not grouped by time. -/
  groupBy : Duration := Duration.zero
  tagSets : List (List String) := []
  orderBy : String := ""
  limit : Option UInt64 := none
  forEverySpec : String := ""
  whereClause : String := ""
deriving DecidableEq

namespace Query

def blank : Query :=
  { measurementName := "", fieldNames := "", timeStart := Instant.epoch, timeEnd := Instant.epoch }

def fields (q : Query) : Except PlanError (List String) :=
  if q.fieldNames.isEmpty then .error .noField else .ok (Text.splitString ',' q.fieldNames)

def measurement (q : Query) : Except PlanError String :=
  if q.measurementName.isEmpty then .error .noMeasurement else .ok q.measurementName

def span (q : Query) : Except PlanError Interval := spanBetween q.timeStart q.timeEnd

def tagFilter (q : Query) : Except PlanError TagFilter := TagFilter.readClauses q.tagSets

def forEvery (q : Query) : Except PlanError ForEvery := ForEvery.read q.forEverySpec

def hasForEvery (q : Query) : Bool := !q.forEverySpec.isEmpty

def isAggregated (q : Query) : Bool := !q.aggregation.isEmpty

def isGroupedByTime (q : Query) : Bool := !q.groupBy.isZero

end Query
end SeriesBench
