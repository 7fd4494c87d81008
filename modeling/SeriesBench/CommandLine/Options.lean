import SeriesBench.StringMap
import SeriesBench.Text.Split

set_option autoImplicit false

namespace SeriesBench.CommandLine

/-- Why the arguments are not followed by a command. -/
inductive Halt where
  | help
  | version
  | usage
  /-- A value that the program comes to grief on while it reads it. -/
  | broken
deriving DecidableEq, Repr

inductive Arity where
  | once
  | counted
  | value (check : String → Except Halt Unit)

structure OptionSpec where
  long : String
  short : Option Char := none
  fallback : Option String := none
  arity : Arity

structure Given where
  marks : List String := []
  values : List (String × String) := []
deriving DecidableEq, Repr

namespace Given

def count (g : Given) (long : String) : Nat := g.marks.count long

def value? (g : Given) (long : String) : Option String := g.values.lookup long

def addMark (g : Given) (long : String) (repeats : Bool) : Except Halt Given :=
  if !repeats && g.marks.contains long then .error .usage
  else .ok { g with marks := long :: g.marks }

/-- A value may be given once, and has to pass its check. -/
def addValue (g : Given) (long : String) (check : String → Except Halt Unit) (value : String) :
    Except Halt Given :=
  if (g.value? long).isSome then .error .usage
  else (check value).map fun _ => { g with values := (long, value) :: g.values }

end Given

structure Awaiting where
  long : String
  check : String → Except Halt Unit

def readCluster (specs : List OptionSpec) (top : Bool) :
    List Char → Given → Except Halt (Given × Option Awaiting)
  | [], g => .ok (g, none)
  | c :: cs, g =>
    match specs.find? fun s => s.short == some c with
    | some spec =>
      match spec.arity with
      | .once => do readCluster specs top cs (← g.addMark spec.long false)
      | .counted => do readCluster specs top cs (← g.addMark spec.long true)
      | .value check =>
        match cs with
        | [] => .ok (g, some ⟨spec.long, check⟩)
        | '=' :: v => do return (← g.addValue spec.long check (String.ofList v), none)
        | v => do return (← g.addValue spec.long check (String.ofList v), none)
    | none =>
      if c = 'h' then .error .help
      else if c = 'V' ∧ top then .error .version
      else .error .usage

def readLong (specs : List OptionSpec) (top : Bool) (name : String) (value : Option String)
    (g : Given) : Except Halt (Given × Option Awaiting) :=
  match specs.find? fun s => s.long == name with
  | some spec =>
    match spec.arity, value with
    | .once, none => do return (← g.addMark name false, none)
    | .counted, none => do return (← g.addMark name true, none)
    | .value check, none => .ok (g, some ⟨name, check⟩)
    | .value check, some v => do return (← g.addValue name check v, none)
    | _, some _ => .error .usage
  | none =>
    if value.isSome then .error .usage
    else if name = "help" then .error .help
    else if name = "version" ∧ top then .error .version
    else .error .usage

inductive Argument where
  | separator
  | long (name : String) (value : Option String)
  | cluster (options : List Char)
  | plain

def Argument.ofString (arg : String) : Argument :=
  match arg.toList with
  | ['-', '-'] => .separator
  | '-' :: '-' :: s =>
    match Text.splitOnce '=' s with
    | some (name, value) => .long (String.ofList name) (some (String.ofList value))
    | none => .long (String.ofList s) none
  | '-' :: c :: cs => .cluster (c :: cs)
  | _ => .plain

def Argument.isPlain : Argument → Bool
  | .plain => true
  | _ => false

/-- Reads options up to the first plain argument, and gives that and the arguments after it. Nothing
may follow a separator. -/
def readOptions (specs : List OptionSpec) (top : Bool) :
    List String → Option Awaiting → Given → Except Halt (Given × List String)
  | [], none, g => .ok (g, [])
  | [], some _, _ => .error .usage
  | arg :: rest, some a, g =>
    if (Argument.ofString arg).isPlain then do
      readOptions specs top rest none (← g.addValue a.long a.check arg)
    else .error .usage
  | arg :: rest, none, g =>
    match Argument.ofString arg with
    | .separator => if rest.isEmpty then .ok (g, []) else .error .usage
    | .long name value => do
      let (g, awaiting) ← readLong specs top name value g
      readOptions specs top rest awaiting g
    | .cluster options => do
      let (g, awaiting) ← readCluster specs top options g
      readOptions specs top rest awaiting g
    | .plain => .ok (g, arg :: rest)

/-- Adds the values of the variables of options that are not given. -/
def addFallbacks (env : StringMap String) : List OptionSpec → Given → Except Halt Given
  | [], g => .ok g
  | spec :: rest, g =>
    match spec.arity, spec.fallback.bind env.get? with
    | .value check, some v =>
      if (g.value? spec.long).isSome then addFallbacks env rest g
      else do addFallbacks env rest (← g.addValue spec.long check v)
    | _, _ => addFallbacks env rest g

end SeriesBench.CommandLine
