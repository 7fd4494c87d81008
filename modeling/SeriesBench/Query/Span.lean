import SeriesBench.PlanError
import SeriesBench.Time.Interval

set_option autoImplicit false

namespace SeriesBench
open SeriesBench.Time

def timestampOf (t : Instant) : Except PlanError Timestamp :=
  match t.timestamp? with
  | some n => .ok n
  | none => .error (.instantRange t)

def spanOf (start stop : Timestamp) : Except PlanError Interval :=
  match Interval.between? start stop with
  | some span => .ok span
  | none => .error (.backwardSpan start.val stop.val)

/-- Of two instants that are no timestamps the start is reported. -/
def spanBetween (start stop : Instant) : Except PlanError Interval := do
  let start ← timestampOf start
  let stop ← timestampOf stop
  spanOf start stop

end SeriesBench
