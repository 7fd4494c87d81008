import SeriesBench.Plan.Basic
import SeriesBench.Series.Index
import SeriesBench.Time.Bucket

set_option autoImplicit false

/-!
# Planning

The planner looks up the series of a query's fields, keeps those that pass its tag filter and hold
rows of its span, and writes the statements that read them.
-/
namespace SeriesBench
open SeriesBench.Time

inductive AggregationSide where
  | server
  | client
deriving DecidableEq, Repr

namespace AggregationSide

def read? (s : String) : Option AggregationSide :=
  match String.ofList (s.toList.map Char.toLower) with
  | "server" => some .server
  | "client" => some .client
  | _ => none

def name : AggregationSide → String
  | .server => "server"
  | .client => "client"

def unknownMessage (s : String) : String :=
  "invalid aggregation plan '" ++ s ++ "', expected 'server' or 'client'"

end AggregationSide

structure Planner where
  index : Index
  dialect : Dialect := {}
  side : AggregationSide := .server

structure Selection where
  measurement : String
  fields : List String
  span : Interval
  filter : TagFilter
deriving DecidableEq

def Query.selection (q : Query) : Except PlanError Selection := do
  let measurement ← q.measurement
  let fields ← q.fields
  let span ← q.span
  let filter ← q.tagFilter
  return { measurement, fields, span, filter }

def Selection.accepts (s : Selection) (series : Series) : Bool :=
  series.hasMeasurement s.measurement && series.hasAnyField s.fields && series.passes s.filter

def groupBuckets (span : Interval) (width : Duration) : Except PlanError (List Bucket) :=
  if width.isZero then .ok [⟨span, span⟩]
  else match Buckets.over? span width with
    | some buckets => .ok buckets.toList
    | none => .error (.bucketWidth width)

/-- Adds a series to each bucket whose part in the span it reaches. -/
def dealOne (hands : List (Bucket × Array Series)) (series : Series) :
    List (Bucket × Array Series) :=
  hands.map fun (b, members) =>
    if series.reaches b.effective then (b, members.push series) else (b, members)

def deal (hands : List (Bucket × Array Series)) (series : List Series) :
    List (Bucket × Array Series) :=
  series.foldl dealOne hands

namespace Planner

def candidates (p : Planner) (s : Selection) (interval : Interval) : List Series :=
  (p.index.lookupFields s.measurement s.fields).filter fun series =>
    series.passes s.filter && series.reaches interval

/-- A series has a statement in a bucket if it reaches the part of the bucket that is in the span.
Buckets without statements are kept. -/
def bucketed (p : Planner) (q : Query) : Except PlanError BucketedPlan := do
  let s ← q.selection
  let buckets ← groupBuckets s.span q.groupBy
  let members := (p.index.lookupFields s.measurement s.fields).filter s.accepts
  let parts ← (deal (buckets.map fun b => (b, #[])) members).mapM fun (b, members) => do
    let statements ← members.toList.mapM fun series =>
      p.dialect.select q.aggregation series.table series.id q.orderBy b.effective
    return ⟨b.effective, statements⟩
  return ⟨q.aggregation, parts⟩

/-- The buckets come newest first if the rows are asked for in that order. -/
def folded (p : Planner) (q : Query) : Except PlanError FoldedPlan := do
  let s ← q.selection
  let buckets ← groupBuckets s.span q.groupBy
  let intervals := buckets.map (·.effective)
  let members := (p.index.lookupFields s.measurement s.fields).filter fun series =>
    s.accepts series && series.reaches s.span
  let statements ← members.mapM fun series =>
    p.dialect.select "" series.table series.id q.orderBy s.span
  return {
    aggregation := q.aggregation
    groupBy := q.groupBy
    fields := s.fields
    buckets := if p.dialect.isNewestFirst q.orderBy then intervals.reverse else intervals
    limit := q.limit
    statements }

def raw (p : Planner) (q : Query) : Except PlanError RawPlan := do
  let s ← q.selection
  let statements ← (p.candidates s s.span).mapM fun series =>
    p.dialect.select "" series.table series.id q.orderBy s.span
  return ⟨s.fields, q.whereClause, statements⟩

def latest (p : Planner) (q : Query) : Except PlanError LatestPlan := do
  let forEvery ← q.forEvery
  let s ← q.selection
  let statements ← (p.candidates s s.span).mapM fun series =>
    p.dialect.selectLatest series.table series.id s.span
  return ⟨s.fields, forEvery, statements⟩

/-- A for-every spec decides first, then whether the query aggregates. -/
def plan (p : Planner) (q : Query) : Except PlanError Plan :=
  if q.hasForEvery then (p.latest q).map .latest
  else if !q.isAggregated then (p.raw q).map .raw
  else match p.side with
    | .server => (p.bucketed q).map .bucketed
    | .client => (p.folded q).map .folded

end Planner
end SeriesBench
