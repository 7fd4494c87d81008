import SeriesBench.StringMap
import SeriesBench.Text.Quoted
import SeriesBench.Workload.Cassandra

set_option autoImplicit false

namespace SeriesBench
open SeriesBench.Time

/-- A target of queries. For each use case it may have a way to start a run of queries. -/
structure Backend (σ : Type) where
  name : String
  devops? : Option (Dataset → Except WorkloadError (σ × DevopsQueries σ)) := none
  iot? : Option (Dataset → Except WorkloadError (σ × IotQueries σ)) := none
  supports : UseCase → Bool := fun useCase => match useCase with
    | .devops => devops?.isSome
    | .iot => iot?.isSome

def Cassandra.backend : Backend Sampler where
  name := backendName
  devops? := some fun d => (Sampler.ofDataset d).map fun s => (s, queries)

structure RegisteredBackend (σ : Type) where
  backend : Backend σ
  useCases : List UseCase

structure Registry (σ : Type) where
  queryTypes : UseCase → StringMap QueryType := fun _ => StringMap.empty
  backends : StringMap (RegisteredBackend σ) := StringMap.empty

inductive OpenQuery (σ : Type) where
  | devops (query : DevopsQuery) (queries : DevopsQueries σ)
  | iot (query : IotQuery) (queries : IotQueries σ)

namespace OpenQuery
variable {σ : Type}

def useCase : OpenQuery σ → UseCase
  | .devops _ _ => .devops
  | .iot _ _ => .iot

def fill : OpenQuery σ → Filling σ Unit
  | .devops query queries => query.fill queries
  | .iot query queries => query.fill queries

end OpenQuery

structure QueryGenerator (σ : Type) where
  queryType : String
  query : OpenQuery σ
  state : σ
  nextId : UInt64 := 0

namespace QueryGenerator
variable {σ : Type}

/-- The next query. Only a query that could be made uses up an id; an attempt without an id after
its own breaks. -/
def next (g : QueryGenerator σ) : Except Failure Query × QueryGenerator σ :=
  match g.query.fill.run (Query.blank, g.state) with
  | (.ok (), (q, state)) =>
    if g.nextId.toNat + 1 < UInt64.size then
      (.ok { q with id := g.nextId }, { g with state, nextId := g.nextId + 1 })
    else (.error .broken, { g with state })
  | (.error e, (_, state)) => (.error e, { g with state })

/-- What comes of up to `n` attempts, of which one that breaks is the last, and the generator after
them. -/
def take : Nat → QueryGenerator σ → List (Except Failure Query) × QueryGenerator σ
  | 0, g => ([], g)
  | n + 1, g =>
    match g.next with
    | (.error .broken, g) => ([.error .broken], g)
    | (q, g) =>
      let (qs, g) := take n g
      (q :: qs, g)

def text (g : QueryGenerator σ) : String :=
  "QueryGenerator \x7b query_type: " ++ Text.quoted g.queryType ++ ", next_id: "
    ++ toString g.nextId.toNat ++ ", .. \x7d"

end QueryGenerator

namespace Registry
variable {σ : Type}

def empty : Registry σ := {}

/-- Replaces the query type that had the name in its use case. -/
def registerQueryType (r : Registry σ) (name : String) (queryType : QueryType) : Registry σ :=
  { r with queryTypes := fun useCase =>
      if useCase = queryType.useCase then (r.queryTypes useCase).insert name queryType
      else r.queryTypes useCase }

def registerBackend (r : Registry σ) (b : Backend σ) (useCases : List UseCase) :
    Except WorkloadError (Registry σ) :=
  match useCases.find? fun useCase => !b.supports useCase with
  | some useCase => .error (.useCaseNotImplemented useCase b.name)
  | none =>
    if r.backends.contains b.name then .error (.duplicateBackend b.name)
    else .ok { r with backends := r.backends.insert b.name ⟨b, useCases⟩ }

def queryTypeNames (r : Registry σ) (useCase : UseCase) : List String := (r.queryTypes useCase).keys

def backendNames (r : Registry σ) : List String := r.backends.keys

def openQuery (b : Backend σ) (queryType : QueryType) (d : Dataset) :
    Except WorkloadError (σ × OpenQuery σ) :=
  match queryType with
  | .devops query =>
    match b.devops? with
    | none => .error (.useCaseNotImplemented .devops b.name)
    | some start => (start d).map fun (state, queries) => (state, .devops query queries)
  | .iot query =>
    match b.iot? with
    | none => .error (.useCaseNotImplemented .iot b.name)
    | some start => (start d).map fun (state, queries) => (state, .iot query queries)

def generator (r : Registry σ) (backend : String) (useCase : UseCase) (queryType : String)
    (d : Dataset) : Except WorkloadError (QueryGenerator σ) :=
  match r.backends.get? backend with
  | none => .error (.unknownBackend backend)
  | some registered =>
    if useCase ∉ registered.useCases then .error (.useCaseNotRegistered useCase backend)
    else match (r.queryTypes useCase).get? queryType with
      | none => .error (.unknownQueryType useCase queryType)
      | some type => do
        let (state, query) ← openQuery registered.backend type d
        return { queryType, query, state }

def builtinQueryTypes : List (String × QueryType) :=
  ([(1, 1, 1), (1, 1, 12), (1, 8, 1), (5, 1, 1), (5, 1, 12), (5, 8, 1)].map
    fun (metrics, hosts, hours) =>
      ("single-groupby-" ++ toString metrics ++ "-" ++ toString hosts ++ "-" ++ toString hours,
        .devops (.singleGroupby metrics hosts (UInt64.ofNat hours))))
  ++ [("cpu-max-all-1", .devops (.maxAll 1 (.ofSeconds 28800))),
    ("cpu-max-all-8", .devops (.maxAll 8 (.ofSeconds 28800))),
    ("cpu-max-all-32-24", .devops (.maxAll 32 (.ofSeconds 86400))),
    ("double-groupby-1", .devops (.doubleGroupby 1)),
    ("double-groupby-5", .devops (.doubleGroupby 5)),
    ("double-groupby-all", .devops (.doubleGroupby cpuMetrics.length)),
    ("groupby-orderby-limit", .devops .groupbyOrderbyLimit),
    ("high-cpu-all", .devops (.highCpu 0)),
    ("high-cpu-1", .devops (.highCpu 1)),
    ("lastpoint", .devops .lastpoint),
    ("last-loc", .iot .lastLocation),
    ("avg-load", .iot .averageLoad)]

def withBuiltinQueryTypes (r : Registry σ) : Registry σ :=
  builtinQueryTypes.foldl (fun r t => r.registerQueryType t.1 t.2) r

def standard : Except WorkloadError (Registry Sampler) :=
  empty.withBuiltinQueryTypes.registerBackend Cassandra.backend [.devops]

end Registry
end SeriesBench
