import SeriesBench.Plan.Basic

set_option autoImplicit false

namespace SeriesBench

def statementLines (statements : List Statement) : String :=
  String.join (statements.map fun s => "  " ++ s.text ++ "\n")

def statementCount (statements : List Statement) : String :=
  toString statements.length ++ " statements\n"

def fieldList (fields : List String) : String := "fields [" ++ String.intercalate "," fields ++ "]"

def BucketStatements.text (b : BucketStatements) : String :=
  " " ++ b.interval.text ++ ": " ++ statementCount b.statements ++ statementLines b.statements

def BucketedPlan.text (p : BucketedPlan) : String :=
  "QueryPlanWithServerAggregation: aggregation " ++ p.aggregation ++ ", "
    ++ toString p.buckets.length ++ " buckets\n" ++ String.join (p.buckets.map (·.text))

def FoldedPlan.text (p : FoldedPlan) : String :=
  let limit := match p.limit with
    | none => ""
    | some n => ", limit " ++ toString n.toNat
  "QueryPlanWithoutServerAggregation: aggregation " ++ p.aggregation ++ ", group by "
    ++ p.groupBy.text ++ ", " ++ fieldList p.fields ++ ", " ++ toString p.buckets.length
    ++ " buckets" ++ limit ++ ", " ++ statementCount p.statements ++ statementLines p.statements

def RawPlan.text (p : RawPlan) : String :=
  "QueryPlanNoAggregation: " ++ fieldList p.fields ++ ", where '" ++ p.whereClause ++ "', "
    ++ statementCount p.statements ++ statementLines p.statements

def LatestPlan.text (p : LatestPlan) : String :=
  "QueryPlanForEvery: " ++ fieldList p.fields ++ ", for every " ++ toString p.forEvery.count ++ " "
    ++ p.forEvery.tag ++ ", " ++ statementCount p.statements ++ statementLines p.statements

def Plan.text : Plan → String
  | .bucketed p => p.text
  | .folded p => p.text
  | .raw p => p.text
  | .latest p => p.text

end SeriesBench
