import SeriesBench.Series.Basic

set_option autoImplicit false

namespace SeriesBench

structure Index where
  groups : StringMap (StringMap (Array Series))
  size : Nat

namespace Index

def empty : Index := ⟨StringMap.empty, 0⟩

def add (index : Index) (s : Series) : Index where
  groups := index.groups.upsert s.measurement fun fields =>
    (fields.getD StringMap.empty).upsert s.field fun group => (group.getD #[]).push s
  size := index.size + 1

def ofList (series : List Series) : Index := series.foldl add empty

def lookup (index : Index) (measurement field : String) : List Series :=
  match (index.groups.get? measurement).bind (·.get? field) with
  | some group => group.toList
  | none => []

/-- The series of each field in turn; a field that is named twice gives its series twice. -/
def lookupFields (index : Index) (measurement : String) (fields : List String) : List Series :=
  fields.flatMap (index.lookup measurement)

def isEmpty (index : Index) : Bool := index.size == 0

def measurements (index : Index) : List String := index.groups.keys

def keyCount (index : Index) : Nat :=
  index.groups.values.foldl (fun n fields => n + fields.entries.length) 0

end Index
end SeriesBench
