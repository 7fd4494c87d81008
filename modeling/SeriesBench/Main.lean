import SeriesBench.CommandLine.Session

set_option autoImplicit false

namespace SeriesBench.CommandLine

def faultOf : IO.Error → FileFault
  | .noFileOrDirectory _ _ _ => .absent
  | .inappropriateType _ 20 _ => .notDirectory
  | .inappropriateType _ 21 _ => .isDirectory
  | .resourceExhausted _ 28 _ => .noSpace
  | .invalidArgument _ 36 _ => .nameTooLong
  | .permissionDenied _ code _ => .other s!"Permission denied (os error {code})"
  | e => .other (toString e)

/-- The file of variables in the directory or in the nearest one above it that has one. -/
def findEnvFile : Nat → String → IO (Option (List UInt8))
  | 0, _ => return none
  | levels + 1, path => do
    match ← (IO.FS.readBinFile path).toBaseIO with
    | .ok bytes => return some bytes.toList
    | .error _ => findEnvFile levels ("../" ++ path)

def environment (names : List String) : IO (StringMap String) :=
  names.foldlM (fun env name => do
    match ← IO.getEnv name with
    | some value => return env.insert name value
    | none => return env) StringMap.empty

partial def readAll (stream : IO.FS.Stream) (done : ByteArray) : IO ByteArray := do
  let bytes ← stream.read 65536
  if bytes.isEmpty then return done else readAll stream (done ++ bytes)

def openSource (job : Job) : ExceptT Outcome IO (IO ByteArray) := do
  match job.source with
  | .nothing => return pure ByteArray.empty
  | .standardInput => return do readAll (← IO.getStdin) ByteArray.empty
  | .file path =>
    match ← (IO.FS.Handle.mk path .read).toBaseIO with
    | .ok handle => return handle.readBinToEnd
    | .error e => throw (job.openFault path (faultOf e))

def createOutput (job : Job) : ExceptT Outcome IO (Option IO.FS.Handle) := do
  match job.output with
  | none => return none
  | some path =>
    match ← (IO.FS.Handle.mk path .write).toBaseIO with
    | .ok handle => return some handle
    | .error e => throw (job.createFault path (faultOf e))

def perform (job : Job) : ExceptT Outcome IO Outcome := do
  let read ← openSource job
  let file ← createOutput job
  let contents ← match ← read.toBaseIO with
    | .ok bytes => pure (.ok bytes.toList)
    | .error e => pure (.error (faultOf e).message)
  let p := job.produce contents
  let outcome := Outcome.ended job.heading p.ending
  match file with
  | none => return { outcome with output := p.pieces }
  | some handle =>
    let write : IO Unit := do
      p.pieces.forM fun bytes => handle.write bytes
      handle.flush
    match ← write.toBaseIO with
    | .ok _ => return outcome
    | .error e => return .ended job.heading (.failed (job.refused (faultOf e).message none))

def outcomeOf (args : List String) : ExceptT Outcome IO Outcome := do
  let file ← findEnvFile 64 envFileName
  let known ← environment (fallbackNames ++ (file.map EnvFile.mentioned).getD [])
  let env ← MonadExcept.ofExcept (environmentOf file known)
  perform (← MonadExcept.ofExcept (jobOf args env))

end SeriesBench.CommandLine

open SeriesBench.CommandLine in
def main (args : List String) : IO UInt32 := do
  let outcome := match ← (outcomeOf args).run with
    | .ok outcome => outcome
    | .error outcome => outcome
  let stdout ← IO.getStdout
  outcome.output.forM stdout.write
  stdout.flush
  IO.eprint outcome.message
  return UInt32.ofNat outcome.status
