import SeriesBench.Fleet.Simulator
import SeriesBench.Point.Writing

set_option autoImplicit false

namespace SeriesBench.Simulator

def writeFirst (format : Format) :
    Nat → Simulator → Sink → WriteSummary → Sink × Except WriteError WriteSummary
  | 0, _, sink, done => (sink, .ok done)
  | n + 1, s, sink, done =>
    match s.next? with
    | none => (sink, .ok done)
    | some (p, s) =>
      match writePoint format p sink done with
      | (sink, .ok done) => writeFirst format n s sink done
      | (sink, .error e) => (sink, .error e)

def write (format : Format) (s : Simulator) (sink : Sink) :
    Sink × Except WriteError WriteSummary :=
  s.writeFirst format s.pointBound sink {}

theorem writeFirst_eq_writePoints (format : Format) (n : Nat) (s : Simulator) (sink : Sink)
    (done : WriteSummary) :
    s.writeFirst format n sink done = writePoints format (s.take n).1 sink done := by
  induction n generalizing s sink done with
  | zero => rfl
  | succ n ih =>
    cases h : s.next? with
    | none => simp [writeFirst, take_of_ended h, h, writePoints]
    | some r =>
      simp only [writeFirst, h, take_cons h, writePoints]
      split <;> simp_all

end SeriesBench.Simulator
