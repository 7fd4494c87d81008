import SeriesBench.CommandLine.Command
import SeriesBench.Fleet.Catalog
import SeriesBench.Fleet.Writing
import SeriesBench.Plan.Text
import SeriesBench.Query.Encoding

set_option autoImplicit false

namespace SeriesBench.CommandLine
open SeriesBench.Text

inductive Source where
  | nothing
  | standardInput
  | file (path : String)
deriving DecidableEq, Repr

inductive Ending where
  | complete (complaint : Option String)
  | failed (text : String)
  /-- The program comes to grief on its input. -/
  | broken
deriving DecidableEq, Repr

structure Produced where
  pieces : List ByteArray
  ending : Ending

def Produced.bytes (p : Produced) : List UInt8 := p.pieces.flatMap (·.data.toList)

abbrev Producer := Except String (List UInt8) → Produced

structure Job where
  heading : String
  source : Source
  output : Option String
  produce : Producer
  /-- What is told if the output cannot be taken, given the text of the fault and the first byte for
  which there is no room, unless the fault shows at the end only. -/
  refused : String → Option UInt8 → String := fun fault _ => fault

def piece (s : List Char) : ByteArray := ⟨(utf8 s).toArray⟩

def ofBoth {ε α : Type} (context : String) (message : ε → String) (e : Except ε α) :
    Except Ending α :=
  e.mapError fun e => .failed (context ++ ": " ++ message e)

def fleetOf (d : Dataset) : Except Ending Fleet :=
  if Fleet.isAddressable d.scale then .ok (Fleet.generate d.scale d.seed) else .error .broken

def listTypes (names : List String) : Produced :=
  ⟨names.map fun n => piece (n.toList ++ ['\n']), .complete none⟩

def queryLine (q : Query) : List Char := q.jsonChars ++ ['\n']

def writeQueries : Nat → QueryGenerator Sampler → List ByteArray → Produced
  | 0, _, done => ⟨done.reverse, .complete none⟩
  | count + 1, g, done =>
    match g.next with
    | (.ok q, g) => writeQueries count g (piece (queryLine q) :: done)
    | (.error (.refused e), _) => ⟨done.reverse, .failed e.message⟩
    | (.error .broken, _) => ⟨done.reverse, .broken⟩

namespace GenerateQueries

def producer (s : GenerateQueries) : Except Ending Producer := do
  let registry ← ofBoth "failed to set up the use case registry" WorkloadError.message
    Registry.standard
  if s.listsTypes then return fun _ => listTypes (registry.queryTypeNames s.useCase)
  match s.queryType with
  | none =>
    throw (.failed "a query type is required, use --list-query-types to see the available ones")
  | some queryType =>
    let generator ← ofBoth ("cannot generate '" ++ queryType ++ "' queries") WorkloadError.message
      (registry.generator s.backend s.useCase queryType s.dataset)
    return fun _ => writeQueries s.count generator []

def refused (fault : String) : Option UInt8 → String
  | some byte => if byte = 0x0A then fault else "failed to write query: " ++ fault
  | none => fault

end GenerateQueries

namespace GenerateData

def refused (fault : String) (_ : Option UInt8) : String :=
  "failed to write points: failed to write serialized points: " ++ fault ++ ": " ++ fault

def producer (s : GenerateData) : Except Ending Producer := do
  let fleet ← fleetOf s.dataset
  let simulator ← ofBoth "invalid simulation settings" WorkloadError.message
    (Simulator.start fleet s.dataset.start s.dataset.stop s.interval s.dataset.seed)
  return fun _ =>
    let (sink, outcome) := simulator.write s.format {}
    ⟨[sink.taken], match outcome with
      | .ok _ => .complete none
      | .error e => .failed ("failed to write points: " ++ e.message)⟩

end GenerateData

/-- The lines of the input without their ends, after `done` and a line that begins with `line`, both
last one first. -/
def inputLines : List UInt8 → List UInt8 → List (List UInt8) → List (List UInt8)
  | [], [], done => done.reverse
  | [], line, done => (line.reverse :: done).reverse
  | b :: rest, line, done =>
    if b = 0x0A then
      let line := if line.head? = some 0x0D then line.tail else line
      inputLines rest [] (line.reverse :: done)
    else inputLines rest (b :: line) done

def planSection (q : Query) (plan : Plan) : List Char :=
  ("# " ++ toString q.id.toNat ++ " " ++ q.label ++ "\n" ++ plan.text).toList

/-- What has been written for the lines so far, last one first, and how many queries have a plan and
how many have none. -/
structure PlanTally where
  pieces : List ByteArray := []
  planned : Nat := 0
  refused : Nat := 0

namespace PlanTally

def produced (t : PlanTally) (ending : Ending) : Produced := ⟨t.pieces.reverse, ending⟩

def add (t : PlanTally) (planner : Planner) (q : Query) : PlanTally :=
  match planner.plan q with
  | .ok plan =>
    { t with pieces := piece (planSection q plan) :: t.pieces, planned := t.planned + 1 }
  | .error _ => { t with refused := t.refused + 1 }

end PlanTally

def planLines (planner : Planner) : List (List UInt8) → Nat → PlanTally → Produced
  | [], _, t =>
    t.produced <| .complete <|
      if t.refused = 0 then none
      else some (toString t.refused ++ " of " ++ toString (t.planned + t.refused)
        ++ " queries could not be planned")
  | line :: rest, n, t =>
    match ofUtf8? line with
    | none => t.produced (.failed "failed to read queries: stream did not contain valid UTF-8")
    | some s =>
      if allBlank s then planLines planner rest (n + 1) t
      else match Query.readJson? s with
        | some q => planLines planner rest (n + 1) (t.add planner q)
        | none =>
          t.produced <|
            if Query.overruns s then .broken
            else .failed ("invalid query on line " ++ toString n)

namespace PlanQueries

def producer (s : PlanQueries) : Except Ending Producer := do
  let fleet ← fleetOf s.dataset
  let catalog ← ofBoth "failed to build the series catalog" WorkloadError.message
    (fleet.catalog s.dataset.start s.dataset.stop)
  let planner : Planner := { index := Index.ofList catalog, side := s.side }
  return fun input =>
    match input with
    | .ok bytes => planLines planner (inputLines bytes [] []) 1 {}
    | .error e => ⟨[], .failed ("failed to read queries: " ++ e)⟩

end PlanQueries

def Command.heading : Command → String
  | .generateQueries _ => "Generate queries command failed: "
  | .generateData _ => "Generate data command failed: "
  | .plan _ => "Plan command failed: "

def Command.job (c : Command) : Except Ending Job := do
  match c with
  | .generateQueries s =>
    return {
      heading := c.heading
      source := .nothing
      output := s.output
      produce := ← s.producer
      refused := GenerateQueries.refused }
  | .generateData s =>
    return {
      heading := c.heading
      source := .nothing
      output := s.output
      produce := ← s.producer
      refused := GenerateData.refused }
  | .plan s =>
    return {
      heading := c.heading
      source := (s.file.map Source.file).getD .standardInput
      output := s.output
      produce := ← s.producer }

end SeriesBench.CommandLine
