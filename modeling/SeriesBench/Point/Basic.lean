import SeriesBench.Point.Value
import SeriesBench.Time.Rfc3339

set_option autoImplicit false

namespace SeriesBench
open SeriesBench.Time

/-- A key with its value, or with none once that is cleared. -/
abbrev Slot := String × Option Value

structure Point where
  measurement : String := ""
  tags : List Slot := []
  fields : List Slot := []
  time : Option Instant := none

namespace Slot

def get? (slots : List Slot) (key : String) : Option Value :=
  (slots.find? fun s => s.1 == key).bind (·.2)

/-- Clears the first slot of the key, even if it is clear already. -/
def clear (key : String) : List Slot → List Slot
  | [] => []
  | s :: rest => if s.1 == key then (s.1, none) :: rest else s :: clear key rest

def filled (slots : List Slot) : List (String × Value) :=
  slots.filterMap fun s => s.2.map fun v => (s.1, v)

theorem filled_append (xs ys : List Slot) : filled (xs ++ ys) = filled xs ++ filled ys :=
  List.filterMap_append

theorem filled_map_some (pairs : List (String × Value)) :
    filled (pairs.map fun pair => (pair.1, some pair.2)) = pairs := by
  rw [filled, List.filterMap_map]
  exact List.filterMap_some

end Slot

namespace Point

def new (measurement : String) : Point := { measurement }

def setMeasurement (p : Point) (measurement : String) : Point := { p with measurement }

def setTime (p : Point) (t : Instant) : Point := { p with time := some t }

def appendTag (p : Point) (key : String) (value : Value) : Point :=
  { p with tags := p.tags ++ [(key, some value)] }

def appendField (p : Point) (key : String) (value : Value) : Point :=
  { p with fields := p.fields ++ [(key, some value)] }

def tag? (p : Point) (key : String) : Option Value := Slot.get? p.tags key

def field? (p : Point) (key : String) : Option Value := Slot.get? p.fields key

def clearTag (p : Point) (key : String) : Point := { p with tags := Slot.clear key p.tags }

def clearField (p : Point) (key : String) : Point := { p with fields := Slot.clear key p.fields }

def reset (_ : Point) : Point := {}

def liveTags (p : Point) : List (String × Value) := Slot.filled p.tags

def liveFields (p : Point) : List (String × Value) := Slot.filled p.fields

end Point
end SeriesBench
