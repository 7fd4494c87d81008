import SeriesBench.Point.Writing

set_option autoImplicit false

namespace SeriesBench
open SeriesBench.Time

namespace Sink
variable {s s' : Sink}

theorem take_append (s : Sink) (room : Option Nat) (a b : List UInt8) :
    Sink.take ⟨s.take a, room⟩ b = s.take (a ++ b) := by
  apply ByteArray.ext
  simp [Sink.take, ByteArray.data_append]

theorem take_nil (s : Sink) : s.take [] = s.taken := by
  apply ByteArray.ext
  simp [Sink.take, ByteArray.data_append]

theorem bytes_take (s : Sink) (room : Option Nat) (piece : List UInt8) :
    Sink.bytes ⟨s.take piece, room⟩ = s.bytes ++ piece := by
  simp [Sink.bytes, Sink.take, ByteArray.data_append]

def put (s : Sink) (piece : List UInt8) : Sink × Bool :=
  ((s.write piece).1, decide ((s.write piece).2 = piece.length))

theorem put_of_room {n : Nat} (h : s.room = some n) (piece : List UInt8) :
    s.put piece = (⟨s.take (piece.take n), some (n - piece.length)⟩, decide (piece.length ≤ n)) := by
  have fits : min n piece.length = piece.length ↔ piece.length ≤ n := by omega
  rw [put, write, h]
  exact congrArg (Prod.mk _) (decide_eq_decide.2 fits)

theorem put_of_unbounded (h : s.room = none) (piece : List UInt8) :
    s.put piece = (⟨s.take piece, none⟩, true) := by
  rw [put, write, h]
  exact congrArg (Prod.mk _) (decide_eq_true rfl)

theorem put_nil (s : Sink) : s.put [] = (s, true) := by
  cases h : s.room with
  | none => rw [put_of_unbounded h, take_nil, ← h]
  | some n =>
    rw [put_of_room h, List.take_nil, take_nil, List.length_nil, Nat.sub_zero, ← h,
      decide_eq_true (Nat.zero_le n)]

theorem bytes_of_put {piece : List UInt8} (h : s.put piece = (s', true)) :
    s'.bytes = s.bytes ++ piece := by
  cases hroom : s.room with
  | none =>
    rw [put_of_unbounded hroom] at h
    rw [← (Prod.mk.inj h).1, bytes_take]
  | some n =>
    rw [put_of_room hroom] at h
    obtain ⟨rfl, hfits⟩ := Prod.mk.inj h
    rw [bytes_take, List.take_of_length_le (of_decide_eq_true hfits)]

theorem length_bytes_write (s : Sink) (piece : List UInt8) :
    (s.write piece).1.bytes.length = s.bytes.length + (s.write piece).2 := by
  cases h : s.room with
  | none => rw [write, h, bytes_take, List.length_append]
  | some n => rw [write, h, bytes_take, List.length_append, List.length_take]

/-- Two pieces are taken as one. The second is only handed over if the first fitted. -/
theorem put_append (s : Sink) (a b : List UInt8) :
    s.put (a ++ b) =
      match s.put a with
      | (next, true) => next.put b
      | (next, false) => (next, false) := by
  cases h : s.room with
  | none =>
    rw [put_of_unbounded h, put_of_unbounded h]
    dsimp only
    rw [put_of_unbounded rfl, take_append]
  | some n =>
    rw [put_of_room h, put_of_room h, List.take_append, List.length_append]
    by_cases hfits : a.length ≤ n
    · have fits : (a.length + b.length ≤ n) ↔ b.length ≤ n - a.length := by omega
      rw [decide_eq_true hfits]
      dsimp only
      rw [put_of_room rfl, take_append, Nat.sub_sub, decide_eq_decide.2 fits]
    · have refused : ¬ a.length + b.length ≤ n := by omega
      have none_left : n - a.length = 0 := by omega
      have none_left' : n - (a.length + b.length) = 0 := by omega
      rw [decide_eq_false hfits, decide_eq_false refused, none_left, none_left', List.take_zero,
        List.append_nil]

end Sink

namespace Counter

theorem put_of_writeAll {c c' : Counter} {pieces : List (List UInt8)} {fits : Bool}
    (h : c.writeAll pieces = (c', fits)) : c.sink.put pieces.flatten = (c'.sink, fits) := by
  induction pieces generalizing c with
  | nil =>
    obtain ⟨rfl, rfl⟩ := Prod.mk.inj h
    exact c.sink.put_nil
  | cons piece rest ih =>
    have first : c.sink.put piece = ((c.write piece).1.sink, (c.write piece).2) := rfl
    rw [writeAll] at h
    rw [List.flatten_cons, Sink.put_append, first]
    generalize c.write piece = r at h
    obtain ⟨next, _ | _⟩ := r
    · obtain ⟨rfl, rfl⟩ := Prod.mk.inj h
      rfl
    · exact ih h

/-- A counter counts what its sink takes, also of a piece that does not fit. -/
theorem count_of_writeAll {c c' : Counter} {pieces : List (List UInt8)} {fits : Bool}
    (h : c.writeAll pieces = (c', fits)) :
    c'.count + c.sink.bytes.length = c.count + c'.sink.bytes.length := by
  induction pieces generalizing c with
  | nil =>
    obtain ⟨rfl, -⟩ := Prod.mk.inj h
    rfl
  | cons piece rest ih =>
    have taken : (c.write piece).1.count + c.sink.bytes.length =
        c.count + (c.write piece).1.sink.bytes.length := by
      change c.count + (c.sink.write piece).2 + _ = _ + (c.sink.write piece).1.bytes.length
      rw [Sink.length_bytes_write]
      omega
    rw [writeAll] at h
    generalize c.write piece = r at h taken
    obtain ⟨next, _ | _⟩ := r
    · obtain ⟨rfl, -⟩ := Prod.mk.inj h
      exact taken
    · have counted := ih h
      dsimp only at taken
      omega

end Counter

namespace Format

/-- Why the format cannot express a point: bulk-load rows need a time, and one that is a number of
nanoseconds. -/
def refusal? : Format → Point → Option PointError
  | .lineProtocol, _ => none
  | .bulkRows, p =>
    match p.time with
    | none => some (.noTime p.measurement)
    | some t => if t.timestamp?.isSome then none else some (.timeRange p.measurement)

def bytesOf (format : Format) (p : Point) : List UInt8 := (writePoint format p {} {}).1.bytes

def linesOf (format : Format) (p : Point) : Nat :=
  match (writePoint format p {} {}).2 with
  | .ok summary => summary.lines
  | .error _ => 0

variable {format : Format} {p : Point}

theorem render_eq_error_iff {e : PointError} :
    format.render p = .error e ↔ format.refusal? p = some e := by
  cases format with
  | lineProtocol => simp [Format.render, refusal?]
  | bulkRows =>
    simp only [Format.render, refusal?, BulkRow.rows]
    cases p.time with
    | none => simp [Except.map]
    | some t => cases h : t.timestamp? <;> simp [Except.map, h]

theorem exists_render (h : format.refusal? p = none) : ∃ r, format.render p = .ok r := by
  cases hrender : format.render p with
  | error e =>
    rw [render_eq_error_iff.1 hrender] at h
    exact absurd h (by simp)
  | ok r => exact ⟨r, rfl⟩

theorem writePoint_of_render {r : Rendered} (h : format.render p = .ok r) (sink : Sink)
    (done : WriteSummary) :
    writePoint format p sink done =
      match sink.put r.bytes with
      | (next, true) =>
        (next, .ok ⟨done.points + 1, done.lines + r.lines, done.bytes + r.bytes.length⟩)
      | (next, false) => (next, .error .full) := by
  unfold writePoint
  rw [h]
  dsimp only
  cases hwrite : (Counter.mk sink done.bytes).writeAll r.pieces with
  | mk c fits =>
    have put : sink.put r.bytes = (c.sink, fits) := Counter.put_of_writeAll hwrite
    rw [put]
    cases fits with
    | false => rfl
    | true =>
      have counted : c.count + sink.bytes.length = done.bytes + c.sink.bytes.length :=
        Counter.count_of_writeAll hwrite
      rw [Sink.bytes_of_put put, List.length_append] at counted
      have count : c.count = done.bytes + r.bytes.length := by omega
      dsimp only
      rw [count]

theorem rendered_alone {r : Rendered} (h : format.render p = .ok r) :
    format.bytesOf p = r.bytes ∧ format.linesOf p = r.lines := by
  have alone := writePoint_of_render h {} {}
  rw [Sink.put_of_unbounded rfl] at alone
  unfold bytesOf linesOf
  rw [alone]
  constructor
  · exact Sink.bytes_take {} none r.bytes
  · exact Nat.zero_add r.lines

end Format

section Writing
variable {format : Format} {p : Point}

theorem writePoint_of_refusal {e : PointError} (h : format.refusal? p = some e) (sink : Sink)
    (done : WriteSummary) : writePoint format p sink done = (sink, .error (.point e)) := by
  unfold writePoint
  rw [Format.render_eq_error_iff.2 h]

/-- In any sink, and after any other points, a point is what it is alone. -/
theorem writePoint_eq (h : format.refusal? p = none) (sink : Sink) (done : WriteSummary) :
    writePoint format p sink done =
      match sink.put (format.bytesOf p) with
      | (next, true) => (next, .ok ⟨done.points + 1, done.lines + format.linesOf p,
          done.bytes + (format.bytesOf p).length⟩)
      | (next, false) => (next, .error .full) := by
  obtain ⟨r, hr⟩ := Format.exists_render h
  obtain ⟨hbytes, hlines⟩ := Format.rendered_alone hr
  rw [hbytes, hlines]
  exact Format.writePoint_of_render hr sink done

end Writing

namespace Format

def front (format : Format) (points : List Point) : List Point :=
  points.takeWhile fun p => (format.refusal? p).isNone

def bytesOfAll (format : Format) (points : List Point) : List UInt8 := points.flatMap format.bytesOf

def linesOfAll (format : Format) : List Point → Nat
  | [] => 0
  | p :: rest => format.linesOf p + linesOfAll format rest

def report (format : Format) (points : List Point) (done : WriteSummary) :
    Except WriteError WriteSummary :=
  match points.findSome? format.refusal? with
  | some e => .error (.point e)
  | none => .ok ⟨done.points + points.length, done.lines + format.linesOfAll points,
      done.bytes + (format.bytesOfAll (format.front points)).length⟩

variable {format : Format} {p : Point} {rest : List Point}

theorem front_nil : format.front [] = [] := rfl

theorem bytesOfAll_nil : format.bytesOfAll [] = [] := rfl

theorem front_of_refusal {e : PointError} (h : format.refusal? p = some e) :
    format.front (p :: rest) = [] := by
  rw [front, List.takeWhile_cons_of_neg (by simp [h])]

theorem front_cons (h : format.refusal? p = none) :
    format.front (p :: rest) = p :: format.front rest := by
  rw [front, List.takeWhile_cons_of_pos (by simp [h])]
  rfl

theorem bytesOfAll_cons (p : Point) (rest : List Point) :
    format.bytesOfAll (p :: rest) = format.bytesOf p ++ format.bytesOfAll rest :=
  List.flatMap_cons

theorem report_of_refusal {e : PointError} (h : format.refusal? p = some e) (done : WriteSummary) :
    format.report (p :: rest) done = .error (.point e) := by
  rw [report, List.findSome?_cons_of_isSome (by simp [h]), h]

theorem report_cons (h : format.refusal? p = none) (done : WriteSummary) :
    format.report (p :: rest) done = format.report rest ⟨done.points + 1,
      done.lines + format.linesOf p, done.bytes + (format.bytesOf p).length⟩ := by
  unfold report
  rw [List.findSome?_cons_of_isNone (by simp [h]), front_cons h, bytesOfAll_cons]
  simp only [linesOfAll, List.length_cons, List.length_append, Nat.add_assoc,
    Nat.add_comm 1 rest.length]

end Format

theorem writePoints_eq (format : Format) (points : List Point) (sink : Sink) (done : WriteSummary) :
    writePoints format points sink done =
      match sink.put (format.bytesOfAll (format.front points)) with
      | (next, true) => (next, format.report points done)
      | (next, false) => (next, .error .full) := by
  induction points generalizing sink done with
  | nil =>
    rw [Format.front_nil, Format.bytesOfAll_nil, Sink.put_nil]
    rfl
  | cons p rest ih =>
    rw [writePoints]
    cases h : format.refusal? p with
    | some e =>
      rw [writePoint_of_refusal h, Format.front_of_refusal h, Format.bytesOfAll_nil,
        Sink.put_nil, Format.report_of_refusal h]
    | none =>
      rw [writePoint_eq h, Format.front_cons h, Format.bytesOfAll_cons, Format.report_cons h,
        Sink.put_append]
      rcases sink.put (format.bytesOf p) with ⟨next, _ | _⟩
      · rfl
      · exact ih next _

/-- A sink with room for `n` bytes ends up with the first `n` bytes of what the points before the
first refusal leave each alone. It is full just when they are more; if they are not, the error is
that of the point that is refused. -/
theorem writePoints_cut_off (format : Format) (points : List Point) (n : Nat) :
    (writePoints format points { room := some n } {}).1.bytes =
        (format.bytesOfAll (format.front points)).take n ∧
      (writePoints format points { room := some n } {}).2 =
        if n < (format.bytesOfAll (format.front points)).length then .error .full
        else match points.findSome? format.refusal? with
          | some e => .error (.point e)
          | none => .ok ⟨points.length, format.linesOfAll points,
              (format.bytesOfAll (format.front points)).length⟩ := by
  have whole := writePoints_eq format points { room := some n } {}
  rw [Sink.put_of_room rfl] at whole
  by_cases hroom : n < (format.bytesOfAll (format.front points)).length
  · rw [decide_eq_false (Nat.not_le.2 hroom)] at whole
    rw [whole, if_pos hroom]
    exact ⟨Sink.bytes_take _ _ _, rfl⟩
  · rw [decide_eq_true (Nat.not_lt.1 hroom)] at whole
    rw [whole, if_neg hroom]
    refine ⟨Sink.bytes_take _ _ _, ?_⟩
    change format.report points {} = _
    simp only [Format.report, Nat.zero_add]

end SeriesBench
