set_option autoImplicit false

namespace SeriesBench

inductive UseCase where
  | devops
  | iot
deriving DecidableEq, Repr

def UseCase.name : UseCase → String
  | .devops => "devops"
  | .iot => "iot"

def UseCase.ofName? : String → Option UseCase
  | "devops" => some .devops
  | "iot" => some .iot
  | _ => none

end SeriesBench
