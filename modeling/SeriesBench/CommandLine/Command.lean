import SeriesBench.CommandLine.LogFilter
import SeriesBench.CommandLine.Options
import SeriesBench.Plan.Planner
import SeriesBench.Point.Writing
import SeriesBench.Workload.Registry

set_option autoImplicit false

namespace SeriesBench.CommandLine
open SeriesBench.Time

structure GenerateQueries where
  dataset : Dataset
  output : Option String
  useCase : UseCase
  queryType : Option String
  backend : String
  count : Nat
  listsTypes : Bool

structure GenerateData where
  dataset : Dataset
  output : Option String
  format : Format
  interval : Duration

structure PlanQueries where
  dataset : Dataset
  output : Option String
  file : Option String
  side : AggregationSide

inductive Command where
  | generateQueries (settings : GenerateQueries)
  | generateData (settings : GenerateData)
  | plan (settings : PlanQueries)

structure Invocation where
  logFilter : String
  command : Option Command

def readCount? (s : String) : Option Nat := (Text.readNat maxWord s.toList).toOption

def readTime? (s : String) : Option Instant := Instant.readStrict? s.toList

def readInterval? (s : String) : Option Duration := (Duration.readChars s.toList).toOption

def readPath? (s : String) : Option String := if s.isEmpty then none else some s

def valued {α : Type} (long fallback : String) (read? : String → Option α) : OptionSpec where
  long := long
  fallback := some fallback
  arity := .value fun s => if (read? s).isSome then .ok () else .error .usage

def checkInterval (s : String) : Except Halt Unit :=
  match Duration.readChars s.toList with
  | .ok _ => .ok ()
  | .error .unreadable => .error .usage
  | .error .overrun => .error .broken

def logOptions : List OptionSpec :=
  [valued "log-filter" "LOG_FILTER" some,
    { long := "verbose", short := some 'v', arity := .counted }]

def datasetOptions : List OptionSpec :=
  [valued "scale" "TSBENCH_SCALE" readCount?,
    valued "seed" "TSBENCH_SEED" readCount?,
    valued "timestamp-start" "TSBENCH_TIMESTAMP_START" readTime?,
    valued "timestamp-end" "TSBENCH_TIMESTAMP_END" readTime?]

def sharedOptions : List OptionSpec :=
  datasetOptions ++
    [{ valued "output" "TSBENCH_OUTPUT" readPath? with short := some 'o' }]

def generateQueriesOptions : List OptionSpec :=
  [valued "use-case" "TSBENCH_USE_CASE" UseCase.ofName?,
    valued "query-type" "TSBENCH_QUERY_TYPE" some,
    valued "format" "TSBENCH_QUERY_FORMAT" some,
    valued "queries" "TSBENCH_QUERIES" readCount?,
    { long := "list-query-types", arity := .once }]

def generateDataOptions : List OptionSpec :=
  [valued "format" "TSBENCH_FORMAT" Format.ofName?,
    { long := "log-interval"
      fallback := some "TSBENCH_LOG_INTERVAL"
      arity := .value checkInterval }]

def planOptions : List OptionSpec :=
  [{ valued "file" "TSBENCH_QUERIES_FILE" readPath? with short := some 'f' },
    valued "aggregation-plan" "TSBENCH_AGGREGATION_PLAN" AggregationSide.read?]

def fallbackNames : List String :=
  (logOptions ++ sharedOptions ++ generateQueriesOptions ++ generateDataOptions
    ++ planOptions).filterMap (·.fallback)

def setting {α : Type} (g : Given) (long : String) (read? : String → Option α) (absent : α) : α :=
  ((g.value? long).bind read?).getD absent

def defaultStart : Instant := ((Instant.ofUnix? 1451606400 0).getD .epoch)

def defaultStop : Instant := ((Instant.ofUnix? 1451692800 0).getD .epoch)

def dataset (g : Given) : Dataset where
  start := setting g "timestamp-start" readTime? defaultStart
  stop := setting g "timestamp-end" readTime? defaultStop
  scale := setting g "scale" readCount? 1
  seed := UInt64.ofNat (setting g "seed" readCount? 0)

def output (g : Given) : Option String := (g.value? "output").bind readPath?

/-- A command by its name, as its options and what they make of it. -/
def commandOf? : String → Option (List OptionSpec × (Given → Command))
  | "generate-queries" => some (generateQueriesOptions, fun g => .generateQueries {
      dataset := dataset g
      output := output g
      useCase := setting g "use-case" UseCase.ofName? .devops
      queryType := g.value? "query-type"
      backend := setting g "format" some Cassandra.backendName
      count := setting g "queries" readCount? 1000
      listsTypes := 0 < g.count "list-query-types" })
  | "generate-data" => some (generateDataOptions, fun g => .generateData {
      dataset := dataset g
      output := output g
      format := setting g "format" Format.ofName? .bulkRows
      interval := setting g "log-interval" readInterval? (.ofSeconds 10) })
  | "plan" => some (planOptions, fun g => .plan {
      dataset := dataset g
      output := output g
      file := (g.value? "file").bind readPath?
      side := setting g "aggregation-plan" AggregationSide.read? .server })
  | _ => none

/-- The filter of logs. Repeated marks for more logs override a filter, and what stands behind a
command's name overrides what stands before it. -/
def chosenFilter (env : StringMap String) (outer inner : Given) : String :=
  let marks := inner.count "verbose"
  let verbosity := if 0 < marks then marks else outer.count "verbose"
  match verbosity with
  | 0 =>
    ((inner.value? "log-filter").or (outer.value? "log-filter")).getD
      ((env.get? "LOG_FILTER").getD "info")
  | 1 => "info"
  | 2 => "debug"
  | _ => "trace"

def helpOn : List String → Halt
  | [] => .help
  | [name] => if (commandOf? name).isSome || name == "help" then .help else .usage
  | _ => .usage

def Invocation.read (args : List String) (env : StringMap String) : Except Halt Invocation := do
  let (outer, rest) ← readOptions logOptions true args none {}
  match rest with
  | [] => return ⟨chosenFilter env outer {}, none⟩
  | "help" :: names => throw (helpOn names)
  | name :: args =>
    match commandOf? name with
    | none => throw .usage
    | some (specs, make) =>
      let specs := sharedOptions ++ specs ++ logOptions
      let (inner, rest) ← readOptions specs false args none {}
      if rest.isEmpty then
        let settings ← addFallbacks env specs inner
        return ⟨chosenFilter env outer inner, some (make settings)⟩
      else throw .usage

end SeriesBench.CommandLine
