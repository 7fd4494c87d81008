import Mathlib.Data.List.TakeWhile
import SeriesBench.Proofs.Point.Entries
import SeriesBench.Proofs.Point.LineDecoding

set_option autoImplicit false

namespace SeriesBench
open SeriesBench.Time SeriesBench.Text

namespace Format

def lines : Format → Point → List (List UInt8)
  | .lineProtocol, p =>
    if (LineProtocol.pieces p).isEmpty then [] else [utf8 (LineProtocol.pieces p).flatten]
  | .bulkRows, p => (BulkRow.entries p).map BulkRow.Entry.bytes

/-- The place of the timestamp is at the end of a line of the line protocol, and in front of the
value in a row. -/
def Carries : Format → List UInt8 → Int → Prop
  | .lineProtocol, line, n => ∃ front, line = utf8 (front ++ ' ' :: signed n ++ ['\n'])
  | .bulkRows, line, n => ∃ e : BulkRow.Entry, line = e.bytes ∧ e.nanos = n

variable {format : Format} {p : Point}

theorem bytesOf_eq_lines (h : format.refusal? p = none) :
    format.bytesOf p = (format.lines p).flatten ∧ format.linesOf p = (format.lines p).length := by
  obtain ⟨r, hr⟩ := exists_render h
  rw [(rendered_alone hr).1, (rendered_alone hr).2]
  cases format with
  | lineProtocol =>
    obtain rfl := Except.ok.inj hr
    dsimp only [lines, Rendered.bytes]
    rw [← utf8_flatten]
    cases LineProtocol.pieces p with
    | nil => exact ⟨rfl, rfl⟩
    | cons piece rest => exact ⟨by simp, rfl⟩
  | bulkRows =>
    obtain ⟨out, hrows, rfl⟩ := map_eq_ok_iff.1 hr
    have hflat := BulkRow.flatten_of_rows hrows
    dsimp only [lines, Rendered.bytes]
    rw [List.flatten_flatten, hflat, ← hflat, List.length_map]
    exact ⟨rfl, rfl⟩

theorem bytesOfAll_eq_lines {points : List Point} (h : ∀ p ∈ points, format.refusal? p = none) :
    format.bytesOfAll points = (points.flatMap format.lines).flatten ∧
      format.linesOfAll points = (points.flatMap format.lines).length := by
  induction points with
  | nil => exact ⟨rfl, rfl⟩
  | cons p rest ih =>
    rw [List.forall_mem_cons] at h
    obtain ⟨hbytes, hlines⟩ := bytesOf_eq_lines h.1
    obtain ⟨hbytesAll, hlinesAll⟩ := ih h.2
    rw [bytesOfAll_cons, linesOfAll, List.flatMap_cons, List.flatten_append, List.length_append,
      hbytes, hlines, hbytesAll, hlinesAll]
    exact ⟨rfl, rfl⟩

end Format

theorem writePoints_lines {format : Format} {points : List Point} {sink sink' : Sink}
    {done summary : WriteSummary}
    (h : writePoints format points sink done = (sink', .ok summary)) :
    (∀ p ∈ points, format.refusal? p = none) ∧
      sink'.bytes = sink.bytes ++ (points.flatMap format.lines).flatten ∧
      summary.lines = done.lines + (points.flatMap format.lines).length := by
  rw [writePoints_eq] at h
  split at h
  · rename_i next hwrite
    obtain ⟨rfl, hreport⟩ := Prod.mk.inj h
    unfold Format.report at hreport
    split at hreport
    · exact absurd hreport (by simp)
    · rename_i hnone
      rw [List.findSome?_eq_none_iff] at hnone
      have whole : format.front points = points := by
        rw [Format.front, List.takeWhile_eq_self_iff]
        simpa using hnone
      obtain ⟨hbytes, hlines⟩ := Format.bytesOfAll_eq_lines hnone
      obtain rfl := Except.ok.inj hreport
      rw [whole, hbytes] at hwrite
      exact ⟨hnone, Sink.bytes_of_put hwrite, congrArg (done.lines + ·) hlines⟩
  · exact absurd (Prod.mk.inj h).2 (by simp)

namespace LineProtocol
variable {p : Point}

theorem field_ne_number (front back : List Char) (v : Value) (n : Int) :
    front ++ '=' :: fieldChars v ≠ back ++ ' ' :: signed n := by
  intro h
  rcases List.append_eq_append_iff.1 h with ⟨more, -, hvalue⟩ | ⟨more, -, hnumber⟩
  · rcases fieldChars_cases v with ⟨s, hchars, -⟩ | ⟨hbare, -⟩
    · rcases List.eq_nil_or_concat (signed n) with hnil | ⟨init, c, hnumber⟩
      · exact signed_ne_nil n hnil
      · rw [hchars, stringChars, hnumber, List.concat_eq_append] at hvalue
        have last := congrArg List.reverse hvalue
        simp only [List.reverse_append, List.reverse_cons, List.reverse_nil, List.nil_append,
          List.cons_append, List.append_assoc] at last
        have mem : '"' ∈ signed n := by
          rw [hnumber, (List.cons.inj last).1]
          simp
        exact not_mem_signed rfl (by decide) n mem
    · have mem : ' ' ∈ '=' :: fieldChars v := by simp [hvalue]
      have isChar := hbare ' ' (by simpa using mem)
      exact absurd isChar (by decide)
  · have mem : '=' ∈ ' ' :: signed n := by simp [hnumber]
    rw [List.mem_cons] at mem
    exact mem.elim (by decide) (not_mem_signed rfl (by decide) n)

theorem eq_of_append_number {front back : List Char} {a b : Int}
    (h : front ++ ' ' :: signed a = back ++ ' ' :: signed b) : a = b := by
  have free (n : Int) : ' ' ∉ (signed n).reverse := by
    rw [List.mem_reverse]
    exact not_mem_signed rfl (by decide) n
  have flipped := congrArg List.reverse h
  simp only [List.reverse_append, List.reverse_cons, List.append_assoc, List.singleton_append]
    at flipped
  exact signed_injective (List.reverse_injective (eq_of_append_cons (free a) (free b) flipped).1)

theorem exists_last_fieldText (first : String × Value) (more : List (String × Value)) :
    ∃ front v, fieldText ' ' first ++ more.flatMap (fieldText ',') =
      front ++ '=' :: fieldChars v := by
  rcases List.eq_nil_or_concat more with rfl | ⟨more, last, rfl⟩
  · exact ⟨' ' :: keyChars first.1, first.2, by simp [fieldText]⟩
  · refine ⟨fieldText ' ' first ++ (more.flatMap (fieldText ',') ++ ',' :: keyChars last.1),
      last.2, ?_⟩
    simp [fieldText]

theorem exists_last_field (h : lineFields p ≠ []) :
    ∃ front v, (pieces p).flatten = front ++ '=' :: fieldChars v ++ endText p := by
  obtain ⟨first, more, hfields⟩ := List.exists_cons_of_ne_nil h
  obtain ⟨front, v, hlast⟩ := exists_last_fieldText first more
  refine ⟨escape endsMeasurement p.measurement.toList ++
    ((textTags p.liveTags).flatMap tagText ++ front), v, ?_⟩
  rw [flatten_linePieces hfields, ← List.append_assoc (fieldText ' ' first), hlast]
  simp only [List.append_assoc]

theorem pieces_isEmpty (p : Point) : (pieces p).isEmpty = (lineFields p).isEmpty := by
  unfold pieces
  cases (lineFields p).isEmpty <;> rfl

theorem mem_lines_iff {line : List UInt8} : line ∈ Format.lineProtocol.lines p ↔
    lineFields p ≠ [] ∧ line = utf8 (pieces p).flatten := by
  rw [Format.lines, pieces_isEmpty]
  split <;> simp_all

theorem carries_iff {line : List UInt8} (h : line ∈ Format.lineProtocol.lines p) (n : Int) :
    Format.lineProtocol.Carries line n ↔ (p.time.bind (·.timestamp?)).map (·.val) = some n := by
  obtain ⟨hfields, rfl⟩ := mem_lines_iff.1 h
  obtain ⟨front, v, hline⟩ := exists_last_field hfields
  rw [hline, Format.Carries]
  rcases endText_cases p with ⟨htime, hend⟩ | ⟨t, htime, hend⟩
  · rw [htime, hend]
    constructor
    · rintro ⟨back, hback⟩
      exact absurd (List.append_cancel_right (utf8_injective hback)) (field_ne_number front back v n)
    · intro hn
      exact absurd hn (by simp)
  · rw [htime, hend, Option.map_some, Option.some.injEq]
    constructor
    · rintro ⟨back, hback⟩
      have same := utf8_injective hback
      rw [← List.append_assoc] at same
      exact eq_of_append_number (List.append_cancel_right same)
    · rintro rfl
      exact ⟨front ++ '=' :: fieldChars v, by simp only [List.append_assoc]⟩

end LineProtocol

def Time.Instant.IsCounted (t : Instant) : Prop :=
  minTimestamp ≤ t.unixNanos ∧ t.unixNanos ≤ maxTimestamp

theorem Time.Instant.timestamp?_of_isCounted {t : Instant} (h : t.IsCounted) :
    t.timestamp? = some ⟨t.unixNanos, h⟩ := timestamp?_eq_some_iff.2 rfl

theorem Time.Instant.timestamp?_of_not_isCounted {t : Instant} (h : ¬ t.IsCounted) :
    t.timestamp? = none := by
  rw [Option.eq_none_iff_forall_ne_some]
  intro n hn
  have counted := n.property
  rw [timestamp?_eq_some_iff.1 hn] at counted
  exact h counted

section Times
variable {format : Format} {p : Point} {t : Instant} {line : List UInt8}

theorem Format.carries_of_isCounted (htime : p.time = some t) (h : t.IsCounted)
    (hline : line ∈ format.lines p) : format.Carries line t.unixNanos := by
  cases format with
  | lineProtocol =>
    rw [LineProtocol.carries_iff hline, htime, Option.bind_some, Instant.timestamp?_of_isCounted h]
    rfl
  | bulkRows =>
    obtain ⟨e, he, rfl⟩ := List.mem_map.1 hline
    rw [BulkRow.entries, htime] at he
    obtain ⟨field, -, rfl⟩ := List.mem_map.1 he
    exact ⟨_, rfl, rfl⟩

theorem Format.refusal?_bulkRows (htime : p.time = some t) (h : ¬ t.IsCounted) :
    Format.bulkRows.refusal? p = some (.timeRange p.measurement) := by
  rw [Format.refusal?]
  simp only [htime, Instant.timestamp?_of_not_isCounted h]
  rfl

theorem LineProtocol.not_carries (htime : p.time = some t) (h : ¬ t.IsCounted)
    (hline : line ∈ Format.lineProtocol.lines p) (n : Int) :
    ¬ Format.lineProtocol.Carries line n := by
  rw [carries_iff hline, htime, Option.bind_some, Instant.timestamp?_of_not_isCounted h]
  simp

theorem writes_without_time {sink : Sink} {done : WriteSummary} (htime : p.time = some t)
    (ht : ¬ t.IsCounted) (hfields : p.liveFields ≠ []) (hroom : sink.room = none) :
    ∃ sink' summary line, writePoints .lineProtocol [p] sink done = (sink', .ok summary) ∧
      Format.lineProtocol.lines p = [line] ∧ sink'.bytes = sink.bytes ++ line ∧
      ∀ n, ¬ Format.lineProtocol.Carries line n := by
  obtain ⟨sink', summary, hwrite⟩ : ∃ sink' summary,
      writePoints .lineProtocol [p] sink done = (sink', .ok summary) := by
    rw [writePoints, writePoint_eq rfl, Sink.put_of_unbounded hroom]
    exact ⟨_, _, rfl⟩
  have hlines : Format.lineProtocol.lines p = [utf8 (LineProtocol.pieces p).flatten] := by
    have live : LineProtocol.lineFields p ≠ [] :=
      fun h => hfields (List.append_eq_nil_iff.1 h).2
    rw [Format.lines, LineProtocol.pieces_isEmpty, if_neg (by simpa using live)]
  have hbytes := (writePoints_lines hwrite).2.1
  rw [List.flatMap_singleton, hlines, List.flatten_singleton] at hbytes
  exact ⟨sink', summary, _, hwrite, hlines, hbytes,
    LineProtocol.not_carries htime ht (by simp [hlines])⟩

end Times

def lastCounted : Instant := (Instant.ofUnix? 9223372036 0).getD .epoch

def firstUncounted : Instant := (Instant.ofUnix? 9223372037 0).getD .epoch

def countedPoint : Point where
  measurement := "cpu"
  fields := [("usage_user", some (.integer 1))]
  time := some lastCounted

def uncountedPoint : Point := { countedPoint with time := some firstUncounted }

end SeriesBench
