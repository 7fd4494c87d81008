import SeriesBench.Fleet.Host
import SeriesBench.Series.Id

set_option autoImplicit false

namespace SeriesBench
open SeriesBench.Time

def metricTable : String := "series_double"

/-- The first day that the time from `start` up to `stop` touches, and the number of days. -/
def daysTouched (start stop : Instant) : Int × Nat :=
  if start = stop then (start.day, 0)
  else
    let last := (stop.add? (-1)).getD stop
    (start.day, (last.day + 1 - start.day).toNat)

def metricSeries (h : Host) (metric : String) (day : Int) : Except PlanError Series :=
  Series.ofId metricTable (seriesId cpuMeasurement h.tags metric (Date.ofDay day))

def addSeries (h : Host) (metric : String) :
    Nat → Int → Array Series → Except PlanError (Array Series)
  | 0, _, done => .ok done
  | count + 1, day, done => do
    let s ← metricSeries h metric day
    addSeries h metric count (day + 1) (done.push s)

/-- By host, then by metric and then by day. -/
def Fleet.catalog (f : Fleet) (start stop : Instant) : Except WorkloadError (List Series) :=
  if stop < start then .error (.timeRange start stop)
  else
    let (day, count) := daysTouched start stop
    let keys := f.hosts.flatMap fun h => cpuMetrics.map fun m => (h, m)
    match keys.foldlM (fun done key => addSeries key.1 key.2 count day done) #[] with
    | .ok series => .ok series.toList
    | .error e => .error (.plan e)

end SeriesBench
