import SeriesBench.Plan.Statement
import SeriesBench.Query.Basic
import SeriesBench.Time.Duration

set_option autoImplicit false

namespace SeriesBench
open SeriesBench.Time

structure BucketStatements where
  interval : Interval
  statements : List Statement
deriving DecidableEq

/-- The store aggregates: a statement for each bucket and each series that reaches it. -/
structure BucketedPlan where
  aggregation : String
  buckets : List BucketStatements
deriving DecidableEq

/-- The reader aggregates: a statement for each series, whose rows are folded into the buckets. -/
structure FoldedPlan where
  aggregation : String
  groupBy : Duration
  fields : List String
  buckets : List Interval
  limit : Option UInt64
  statements : List Statement
deriving DecidableEq

/-- The rows are the answer, less those that the reader refuses by the where clause. -/
structure RawPlan where
  fields : List String
  whereClause : String
  statements : List Statement
deriving DecidableEq

/-- The last row of each series is read, for the reader to group by the tag. -/
structure LatestPlan where
  fields : List String
  forEvery : ForEvery
  statements : List Statement
deriving DecidableEq

inductive Plan where
  | bucketed (plan : BucketedPlan)
  | folded (plan : FoldedPlan)
  | raw (plan : RawPlan)
  | latest (plan : LatestPlan)
deriving DecidableEq

namespace Plan

def name : Plan → String
  | .bucketed _ => "with_server_aggregation"
  | .folded _ => "without_server_aggregation"
  | .raw _ => "no_aggregation"
  | .latest _ => "for_every"

def statements : Plan → List Statement
  | .bucketed p => p.buckets.flatMap (·.statements)
  | .folded p => p.statements
  | .raw p => p.statements
  | .latest p => p.statements

end Plan
end SeriesBench
