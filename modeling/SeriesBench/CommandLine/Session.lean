import SeriesBench.CommandLine.Directory
import SeriesBench.CommandLine.EnvFile
import SeriesBench.CommandLine.Job

set_option autoImplicit false

/-!
# Sessions

A session is a run of the program in a directory: what it is started with, and the outcome.
`Session.run` is the whole program as a function on a directory that is held in memory.
-/
namespace SeriesBench.CommandLine
open SeriesBench.Text

structure Outcome where
  status : Nat
  output : List ByteArray := []
  message : String := ""

def versionText : String := "tsbench 0.1.0\n"

namespace Outcome

def failed (text : String) : Outcome := { status := 1, message := text ++ "\n" }

def broken : Outcome := { status := 101 }

def halted : Halt → Outcome
  | .help => { status := 0 }
  | .version => { status := 0, output := [piece versionText.toList] }
  | .usage => { status := 2 }
  | .broken => broken

def envFault (e : EnvFault) : Outcome :=
  match e.message? with
  | some text => failed ("FATAL Error loading config from: " ++ text ++ "\nAborting")
  | none => broken

def filterFault (filter : String) (e : FilterFault) : Outcome :=
  match e.message? with
  | some text =>
    failed ("Initializing logs failed: invalid log filter '" ++ filter ++ "': " ++ text)
  | none => broken

def ended (heading : String) : Ending → Outcome
  | .complete none => { status := 0 }
  | .complete (some complaint) => failed (heading ++ complaint)
  | .failed text => failed (heading ++ text)
  | .broken => broken

end Outcome

/-- The name of the file in the directory whose variables are added to the environment. -/
def envFileName : String := ".env"

def environmentOf (envFile : Option (List UInt8)) (env : StringMap String) :
    Except Outcome (StringMap String) :=
  match envFile with
  | none => .ok env
  | some bytes => (EnvFile.load bytes env).mapError Outcome.envFault

def noCommandText : String := "command required, -h/--help for help\n"

def jobOf (args : List String) (env : StringMap String) : Except Outcome Job := do
  let invocation ← (Invocation.read args env).mapError Outcome.halted
  match LogFilter.fault? invocation.logFilter with
  | some fault => throw (.filterFault invocation.logFilter fault)
  | none =>
    match invocation.command with
    | none => throw { status := 0, output := [piece noCommandText.toList] }
    | some command => command.job.mapError (Outcome.ended command.heading)

def bufferSize : Nat := 8192

namespace Job

def openFault (job : Job) (path : String) (fault : FileFault) : Outcome :=
  .failed (job.heading ++ "failed to open queries file " ++ path ++ ": " ++ fault.message)

def createFault (job : Job) (path : String) (fault : FileFault) : Outcome :=
  .failed (job.heading ++ "failed to create output file " ++ path ++ ": " ++ fault.message)

/-- How a job ends that writes where there is no room. That shows when a buffer is full, or else at
the end, which a failing job does not reach. -/
def endingWithoutRoom (job : Job) (p : Produced) : Ending :=
  let bytes := p.bytes
  let refused := job.refused FileFault.noSpace.message
  match bytes[bufferSize]?, p.ending with
  | some byte, _ => .failed (refused (some byte))
  | none, .complete complaint =>
    if bytes.isEmpty then .complete complaint else .failed (refused none)
  | none, ending => ending

end Job

structure Session where
  args : List String
  environment : StringMap String
  input : List UInt8
  files : Directory

namespace Session

def contents (s : Session) : Place → Except FileFault (List UInt8)
  | .file name => .ok ((s.files.get? name).getD [])
  | .folder => .error .isDirectory
  | .device .standardInput => .ok s.input
  | .device _ => .ok []

def input? (s : Session) (job : Job) :
    Except Outcome (Option Place × Except FileFault (List UInt8)) :=
  match job.source with
  | .nothing => .ok (none, .ok [])
  | .standardInput => .ok (none, .ok s.input)
  | .file path =>
    match s.files.readable path with
    | .ok place => .ok (some place, s.contents place)
    | .error fault => .error (job.openFault path fault)

def target (s : Session) (job : Job) : Except Outcome Place :=
  match job.output with
  | none => .ok (.device .standardOutput)
  | some path => (s.files.writable path).mapError (job.createFault path)

def deliver (s : Session) (job : Job) (p : Produced) : Place → Outcome × Directory
  | .file name => (.ended job.heading p.ending, s.files.insert name p.bytes)
  | .device .standardOutput =>
    ({ Outcome.ended job.heading p.ending with output := p.pieces }, s.files)
  | .device .standardError =>
    let outcome := Outcome.ended job.heading p.ending
    let text := String.ofList (ofUtf8Lossy p.bytes)
    ({ outcome with message := text ++ outcome.message }, s.files)
  | .device .full => (.ended job.heading (job.endingWithoutRoom p), s.files)
  | _ => (.ended job.heading p.ending, s.files)

/-- A file is emptied before it is written, so a job that reads it too finds nothing there. -/
def perform (s : Session) (job : Job) : Outcome × Directory :=
  match s.input? job with
  | .error outcome => (outcome, s.files)
  | .ok (source, contents) =>
    match s.target job with
    | .error outcome => (outcome, s.files)
    | .ok place =>
      let contents := if place.isFile && source == some place then .ok [] else contents
      s.deliver job (job.produce (contents.mapError FileFault.message)) place

def run (s : Session) : Outcome × Directory :=
  let job := do
    let env ← environmentOf (s.files.get? envFileName) s.environment
    jobOf s.args env
  match job with
  | .ok job => s.perform job
  | .error outcome => (outcome, s.files)

end Session
end SeriesBench.CommandLine
