import SeriesBench.Query.Basic
import SeriesBench.WorkloadError

set_option autoImplicit false

namespace SeriesBench
open SeriesBench.Time

abbrev Filling (σ α : Type) := ExceptT Failure (StateM (Query × σ)) α

structure DevopsQueries (σ : Type) where
  groupByTime (hosts metrics : Nat) (window : Duration) : Filling σ Unit
  maxOfAll (hosts : Nat) (window : Duration) : Filling σ Unit
  groupByTimeAndHost (metrics : Nat) : Filling σ Unit
  latestMaxima : Filling σ Unit
  /-- The readings above a threshold of some hosts, or of all if their number is zero. -/
  highCpu (hosts : Nat) : Filling σ Unit
  lastPoint : Filling σ Unit

structure IotQueries (σ : Type) where
  lastLocation : Filling σ Unit
  averageLoad : Filling σ Unit

inductive DevopsQuery where
  | singleGroupby (metrics hosts : Nat) (hours : UInt64)
  | maxAll (hosts : Nat) (window : Duration)
  | doubleGroupby (metrics : Nat)
  | groupbyOrderbyLimit
  | highCpu (hosts : Nat)
  | lastpoint
deriving DecidableEq

/-- The seconds of the hours are counted in 64 bits before anything else is looked at; more of them than
that break the attempt. -/
def DevopsQuery.fill {σ : Type} (queries : DevopsQueries σ) : DevopsQuery → Filling σ Unit
  | .singleGroupby metrics hosts hours =>
    if hours.toNat * 3600 < UInt64.size then
      queries.groupByTime hosts metrics (.ofSeconds (hours * 3600))
    else throw .broken
  | .maxAll hosts window => queries.maxOfAll hosts window
  | .doubleGroupby metrics => queries.groupByTimeAndHost metrics
  | .groupbyOrderbyLimit => queries.latestMaxima
  | .highCpu hosts => queries.highCpu hosts
  | .lastpoint => queries.lastPoint

inductive IotQuery where
  | lastLocation
  | averageLoad
deriving DecidableEq, Repr

def IotQuery.fill {σ : Type} (queries : IotQueries σ) : IotQuery → Filling σ Unit
  | .lastLocation => queries.lastLocation
  | .averageLoad => queries.averageLoad

inductive QueryType where
  | devops (query : DevopsQuery)
  | iot (query : IotQuery)
deriving DecidableEq

def QueryType.useCase : QueryType → UseCase
  | .devops _ => .devops
  | .iot _ => .iot

end SeriesBench
