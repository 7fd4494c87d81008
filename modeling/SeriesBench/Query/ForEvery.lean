import SeriesBench.PlanError
import SeriesBench.Text.Split

set_option autoImplicit false

namespace SeriesBench
open SeriesBench.Text

structure ForEvery where
  tag : String
  count : Int
deriving DecidableEq, Repr

/-- The count is a number of 64 bits with an optional sign. -/
def ForEvery.read (spec : String) : Except PlanError ForEvery :=
  match split ',' spec.toList with
  | [t :: tag, count] =>
    match readInt 9223372036854775808 9223372036854775807 count with
    | .ok n => .ok ⟨String.ofList (t :: tag), n⟩
    | .error fault => .error (.forEveryCount spec fault)
  | _ => .error (.forEveryShape spec)

end SeriesBench
