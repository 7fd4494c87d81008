import SeriesBench.Query.TagFilter
import SeriesBench.Time.Interval

set_option autoImplicit false

namespace SeriesBench
open SeriesBench.Time

structure Series where
  table : String
  id : String
  measurement : String
  field : String
  tags : StringMap String
  interval : Interval
deriving DecidableEq

namespace Series

def hasMeasurement (s : Series) (measurement : String) : Bool := s.measurement == measurement

def hasField (s : Series) (field : String) : Bool := s.field == field

def hasAnyField (s : Series) (fields : List String) : Bool := fields.any s.hasField

def passes (s : Series) (filter : TagFilter) : Bool := filter.accepts s.tags

def reaches (s : Series) (interval : Interval) : Bool := s.interval.overlaps interval

end Series
end SeriesBench
