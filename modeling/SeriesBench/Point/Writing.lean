import SeriesBench.Point.BulkRow
import SeriesBench.Point.LineProtocol

set_option autoImplicit false

/-!
# Writing points

Points are handed to a sink piece by piece. A sink with little room takes of a piece what fits and
then refuses, which ends the writing, as does a point that the format cannot express.
-/
namespace SeriesBench
open SeriesBench.Text

inductive Format where
  | lineProtocol
  | bulkRows
deriving DecidableEq, Repr

inductive WriteError where
  | point (e : PointError)
  | full
deriving DecidableEq, Repr

def PointError.message : PointError → String
  | .noTime measurement => "point in measurement '" ++ measurement ++ "' has no timestamp"
  | .timeRange measurement =>
    "timestamp of point in measurement '" ++ measurement
      ++ "' cannot be represented in nanoseconds"

def WriteError.message : WriteError → String
  | .point e => e.message
  | .full => "failed to write serialized points: failed to write whole buffer"

structure Rendered where
  pieces : List (List UInt8)
  lines : Nat
deriving DecidableEq, Repr

def Rendered.bytes (r : Rendered) : List UInt8 := r.pieces.flatten

namespace Format

def name : Format → String
  | .lineProtocol => "influx"
  | .bulkRows => "cassandra"

def ofName? : String → Option Format
  | "influx" => some .lineProtocol
  | "cassandra" => some .bulkRows
  | _ => none

def render (format : Format) (p : Point) : Except PointError Rendered :=
  match format with
  | .lineProtocol =>
    let pieces := LineProtocol.pieces p
    .ok ⟨pieces.map utf8, if pieces.isEmpty then 0 else 1⟩
  | .bulkRows => (BulkRow.rows p).map fun rows => ⟨rows.flatten, rows.length⟩

end Format

structure Sink where
  taken : ByteArray := ByteArray.empty
  room : Option Nat := none

namespace Sink

def bytes (s : Sink) : List UInt8 := s.taken.data.toList

def take (s : Sink) (piece : List UInt8) : ByteArray := s.taken ++ ByteArray.mk piece.toArray

/-- The sink after a piece, and how many bytes of it were taken. -/
def write (s : Sink) (piece : List UInt8) : Sink × Nat :=
  match s.room with
  | none => ({ s with taken := s.take piece }, piece.length)
  | some n =>
    ({ taken := s.take (piece.take n), room := some (n - piece.length) }, min n piece.length)

end Sink

/-- A sink, and how many bytes have been counted into it. -/
structure Counter where
  sink : Sink
  count : Nat

namespace Counter

/-- The counter after a piece, and whether all of it was taken. A sink that takes a part of a piece
has no room for more. -/
def write (c : Counter) (piece : List UInt8) : Counter × Bool :=
  let (sink, size) := c.sink.write piece
  (⟨sink, c.count + size⟩, size = piece.length)

def writeAll (c : Counter) : List (List UInt8) → Counter × Bool
  | [] => (c, true)
  | piece :: rest =>
    match c.write piece with
    | (c, true) => c.writeAll rest
    | (c, false) => (c, false)

end Counter

structure WriteSummary where
  points : Nat := 0
  lines : Nat := 0
  bytes : Nat := 0
deriving DecidableEq, Repr

def writePoint (format : Format) (p : Point) (sink : Sink) (done : WriteSummary) :
    Sink × Except WriteError WriteSummary :=
  match format.render p with
  | .error e => (sink, .error (.point e))
  | .ok r =>
    match (Counter.mk sink done.bytes).writeAll r.pieces with
    | (c, false) => (c.sink, .error .full)
    | (c, true) => (c.sink, .ok ⟨done.points + 1, done.lines + r.lines, c.count⟩)

def writePoints (format : Format) :
    List Point → Sink → WriteSummary → Sink × Except WriteError WriteSummary
  | [], sink, done => (sink, .ok done)
  | p :: rest, sink, done =>
    match writePoint format p sink done with
    | (sink, .ok done) => writePoints format rest sink done
    | (sink, .error e) => (sink, .error e)

end SeriesBench
