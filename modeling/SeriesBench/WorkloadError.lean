import SeriesBench.PlanError
import SeriesBench.Workload.UseCase

set_option autoImplicit false

namespace SeriesBench
open SeriesBench.Time

inductive WorkloadError where
  | unknownUseCase (name : String)
  | unknownQueryType (useCase : UseCase) (queryType : String)
  | unknownBackend (name : String)
  | duplicateBackend (name : String)
  | useCaseNotImplemented (useCase : UseCase) (backend : String)
  | useCaseNotRegistered (useCase : UseCase) (backend : String)
  | hostCount (requested scale : Nat)
  | metricCount (requested available : Nat)
  | windowTooLarge (start stop : Instant) (window : Duration)
  | timeRange (start stop : Instant)
  | zeroInterval
  | plan (e : PlanError)
deriving DecidableEq

def WorkloadError.message : WorkloadError → String
  | .unknownUseCase name => "use case '" ++ name ++ "' is undefined"
  | .unknownQueryType useCase queryType =>
    "invalid query type for use case '" ++ useCase.name ++ "': '" ++ queryType ++ "'"
  | .unknownBackend name => "unknown backend '" ++ name ++ "'"
  | .duplicateBackend name => "backend '" ++ name ++ "' is already registered"
  | .useCaseNotImplemented useCase backend =>
    "use case '" ++ useCase.name ++ "' not implemented for backend '" ++ backend ++ "'"
  | .useCaseNotRegistered useCase backend =>
    "use case '" ++ useCase.name ++ "' is not registered for backend '" ++ backend ++ "'"
  | .hostCount requested scale =>
    "cannot pick " ++ toString requested ++ " hosts from a scale of " ++ toString scale
  | .metricCount requested available =>
    "cannot pick " ++ toString requested ++ " of the " ++ toString available ++ " cpu metrics"
  | .windowTooLarge start stop window =>
    "time range " ++ start.plainText ++ " to " ++ stop.plainText ++ " is shorter than the "
      ++ window.briefText ++ " query window"
  | .timeRange start stop =>
    "invalid time range: start " ++ start.plainText ++ " is after end " ++ stop.plainText
  | .zeroInterval => "simulation interval must be non-zero"
  | .plan e => e.message

/-- How an attempt ends that has no result. -/
inductive Failure where
  | refused (e : WorkloadError)
  /-- A number leaves the range of its type, and the program breaks. -/
  | broken
deriving DecidableEq

def orBreak {α : Type} : Option α → Except Failure α
  | some a => .ok a
  | none => .error .broken

def UseCase.read (name : String) : Except WorkloadError UseCase :=
  match UseCase.ofName? name with
  | some useCase => .ok useCase
  | none => .error (.unknownUseCase name)

end SeriesBench
