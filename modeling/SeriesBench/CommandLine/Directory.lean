import SeriesBench.StringMap
import SeriesBench.Text.Split
import SeriesBench.Text.Utf8

set_option autoImplicit false

namespace SeriesBench.CommandLine
open SeriesBench.Text

inductive FileFault where
  | absent
  | notDirectory
  | isDirectory
  | noSpace
  | nameTooLong
  | other (text : String)
deriving DecidableEq, Repr

def FileFault.message : FileFault → String
  | .absent => "No such file or directory (os error 2)"
  | .notDirectory => "Not a directory (os error 20)"
  | .isDirectory => "Is a directory (os error 21)"
  | .noSpace => "No space left on device (os error 28)"
  | .nameTooLong => "File name too long (os error 36)"
  | .other text => text

inductive Device where
  | null
  | full
  | standardInput
  | standardOutput
  | standardError
deriving DecidableEq, Repr

inductive Place where
  | file (name : String)
  | folder
  | device (d : Device)
deriving DecidableEq, Repr

def Place.isFile : Place → Bool
  | .file _ => true
  | _ => false

/-- The contents of files by their names. The name of a file in the working directory is its path
from there. -/
abbrev Directory := StringMap (List UInt8)

/-- The steps that lead to a folder or file, first one first: names, after steps up from the working
directory or after the root. -/
abbrev Route := List String

namespace Route

def up : String := ".."

def root : Route := ["/"]

def name : Route → String
  | "/" :: steps => "/" ++ String.intercalate "/" steps
  | steps => String.intercalate "/" steps

def extend (r : Route) (step : String) : Route :=
  if step = "." then r
  else if step = up then
    if r = root then root
    else if r.getLast?.all (· == up) then r ++ [up]
    else r.dropLast
  else r ++ [step]

end Route

namespace Directory

def devices : List (String × Device) :=
  [("/dev/null", .null), ("/dev/full", .full),
    ("/dev/stdin", .standardInput), ("/dev/fd/0", .standardInput),
    ("/dev/stdout", .standardOutput), ("/dev/fd/1", .standardOutput),
    ("/dev/stderr", .standardError), ("/dev/fd/2", .standardError)]

def rootFolders : List String :=
  ["/bin", "/boot", "/dev", "/etc", "/home", "/lib", "/media", "/mnt", "/opt", "/proc", "/root",
    "/run", "/sbin", "/srv", "/sys", "/tmp", "/usr", "/var"]

def isFolder (d : Directory) (r : Route) : Bool :=
  r.getLast?.all (· == Route.up) || r == Route.root || rootFolders.contains r.name
    || (d.keys ++ devices.map (·.1)).any fun key => key.startsWith (r.name ++ "/")

def place? (d : Directory) (r : Route) : Option Place :=
  if d.isFolder r then some .folder
  else match devices.lookup r.name with
    | some device => some (.device device)
    | none => if d.contains r.name then some (.file r.name) else none

def longestName : Nat := 255

def longestPath : Nat := 4095

def follow (d : Directory) : List String → Route → Except FileFault Route
  | [], r => .ok r
  | step :: rest, r =>
    if longestName < byteLength step.toList then .error .nameTooLong
    else match d.place? (r.extend step) with
      | some .folder => d.follow rest (r.extend step)
      | some _ => .error .notDirectory
      | none => .error .absent

def resolve (d : Directory) (path : String) : Except FileFault (Route × Option String) := do
  if longestPath < byteLength path.toList then throw .nameTooLong
  let steps := (splitString '/' path).filter fun step => !step.isEmpty
  let folder ← d.follow steps.dropLast (if path.startsWith "/" then Route.root else [])
  return (folder, steps.getLast?)

def readable (d : Directory) (path : String) : Except FileFault Place := do
  match ← d.resolve path with
  | (_, none) => return .folder
  | (folder, some step) =>
    if longestName < byteLength step.toList then throw .nameTooLong
    match d.place? (folder.extend step) with
    | some .folder => return .folder
    | some place => if path.endsWith "/" then throw .notDirectory else return place
    | none => throw .absent

/-- Where to write. A path that could only be that of a folder is refused as if it were one. -/
def writable (d : Directory) (path : String) : Except FileFault Place := do
  match ← d.resolve path with
  | (_, none) => throw .isDirectory
  | (folder, some step) =>
    if path.endsWith "/" then throw .isDirectory
    if longestName < byteLength step.toList then throw .nameTooLong
    match d.place? (folder.extend step) with
    | some .folder => throw .isDirectory
    | some place => return place
    | none => return .file (folder.extend step).name

def contents? (d : Directory) (path : String) : Option (List UInt8) :=
  match d.readable path with
  | .ok (.file name) => d.get? name
  | .ok (.device _) => some []
  | _ => none

end Directory
end SeriesBench.CommandLine
