import SeriesBench.Workload.QueryType
import SeriesBench.Workload.Sampler

set_option autoImplicit false

namespace SeriesBench.Cassandra
open SeriesBench.Time

def backendName : String := "cassandra"

def minute : Duration := .ofSeconds 60

def hour : Duration := .ofSeconds 3600

def doubleGroupbyWindow : Duration := .ofSeconds 43200

def highCpuWindow : Duration := .ofSeconds 43200

def highCpuThreshold : String := "usage_user,>,90.0"

def newestFirst : String := "timestamp_ns DESC"

def sampling {α : Type} (s : Sampling α) : Filling Sampler α :=
  fun (q, sampler) =>
    let (r, sampler) := s.run sampler
    (r, (q, sampler))

def chooseMetrics (count : Nat) : Filling Sampler (List String) :=
  MonadExcept.ofExcept ((firstMetrics count).mapError .refused)

def fill (label : String) (metrics : List String) (aggregation : String)
    (window : Instant × Instant) (groupBy : Duration) (tagSets : List (List String)) :
    Filling Sampler Unit :=
  modify fun (q, sampler) => ({ q with
    description := label ++ ": " ++ window.1.zuluText
    label
    measurementName := cpuMeasurement
    fieldNames := String.intercalate "," metrics
    aggregation
    timeStart := window.1
    timeEnd := window.2
    groupBy, tagSets }, sampler)

def edit (f : Query → Query) : Filling Sampler Unit := modify fun (q, sampler) => (f q, sampler)

def column (n : Nat) : String :=
  let ds := Text.digits n
  String.ofList (List.replicate (4 - ds.length) ' ' ++ ds)

def groupByTime (hosts metrics : Nat) (window : Duration) : Filling Sampler Unit := do
  let metrics ← chooseMetrics metrics
  let names ← sampling (Sampler.hosts hosts)
  let span ← sampling (Sampler.window window)
  let label := "Cassandra " ++ toString metrics.length ++ " cpu metric(s), random " ++ column hosts
    ++ " hosts, random " ++ window.text ++ " by 1m"
  fill label metrics "max" span minute (hostTagSets names)

def maxOfAll (hosts : Nat) (window : Duration) : Filling Sampler Unit := do
  let names ← sampling (Sampler.hosts hosts)
  let span ← sampling (Sampler.window window)
  let label := "Cassandra max cpu all fields, rand " ++ column hosts ++ " hosts, rand "
    ++ window.text ++ " by 1h"
  fill label cpuMetrics "max" span hour (hostTagSets names)

def groupByTimeAndHost (metrics : Nat) : Filling Sampler Unit := do
  let metrics ← chooseMetrics metrics
  let span ← sampling (Sampler.window doubleGroupbyWindow)
  let label := "Cassandra mean of " ++ toString metrics.length ++ " metrics, all hosts, random "
    ++ doubleGroupbyWindow.text ++ " by 1h"
  fill label metrics "avg" span hour []

def latestMaxima : Filling Sampler Unit := do
  let span ← sampling (Sampler.window hour)
  fill "Cassandra max cpu over last 5 min-intervals (random end)" (cpuMetrics.take 1) "max" span
    minute []
  edit fun q => { q with orderBy := newestFirst, limit := some 5 }

def highCpu (hosts : Nat) : Filling Sampler Unit := do
  let names ← if hosts = 0 then pure [] else sampling (Sampler.hosts hosts)
  let span ← sampling (Sampler.window highCpuWindow)
  let which := if hosts = 0 then "all hosts" else toString hosts ++ " host(s)"
  fill ("Cassandra CPU over threshold, " ++ which) cpuMetrics "" span .zero (hostTagSets names)
  edit fun q => { q with whereClause := highCpuThreshold }

def lastPoint : Filling Sampler Unit := do
  let (_, sampler) ← get
  fill "Cassandra last row per host" cpuMetrics "" (sampler.start, sampler.stop) .zero []
  edit fun q => { q with forEverySpec := hostnameTag ++ ",1" }

def queries : DevopsQueries Sampler where
  groupByTime := groupByTime
  maxOfAll := maxOfAll
  groupByTimeAndHost := groupByTimeAndHost
  latestMaxima := latestMaxima
  highCpu := highCpu
  lastPoint := lastPoint

end SeriesBench.Cassandra
