import SeriesBench.Proofs.Point.Writing
import SeriesBench.Proofs.Success
import SeriesBench.Proofs.Text.Bytes
import SeriesBench.Proofs.Text.Digits

set_option autoImplicit false

namespace SeriesBench
open SeriesBench.Time SeriesBench.Text

namespace BulkRow

structure Entry where
  table : String
  id : String
  nanos : Int
  value : List UInt8
deriving DecidableEq

namespace Entry

def bytes (e : Entry) : List UInt8 :=
  utf8 (e.table.toList ++ ',' :: e.id.toList ++ ',' :: signed e.nanos ++ [',']) ++
    (e.value ++ utf8 ['\n'])

/-- Whether a reader finds the ends of table and id. A table ends at the first comma. An id has a
day behind its second hash, and ends with it at the next comma. -/
structure Delimited (e : Entry) : Prop where
  table_comma : ',' ∉ e.table.toList
  id_parts : ∃ key field day, e.id.toList = key ++ '#' :: (field ++ '#' :: day) ∧
    '#' ∉ key ∧ '#' ∉ field ∧ ',' ∉ day

theorem bytes_eq {e : Entry} {key field day : List Char}
    (hid : e.id.toList = key ++ '#' :: (field ++ '#' :: day)) :
    e.bytes = utf8 e.table.toList ++ asciiByte ',' :: (utf8 key ++ asciiByte '#' ::
      (utf8 field ++ asciiByte '#' :: (utf8 day ++ asciiByte ',' ::
        (utf8 (signed e.nanos) ++ asciiByte ',' :: (e.value ++ utf8 ['\n']))))) := by
  have comma : IsAscii ',' := by decide
  have hash : IsAscii '#' := by decide
  simp only [bytes, hid, utf8_append, utf8_ascii_cons comma, utf8_ascii_cons hash,
    List.append_assoc, List.cons_append]
  rfl

theorem Delimited.eq_of_bytes {e e' : Entry} (h : e.Delimited) (h' : e'.Delimited)
    (hbytes : e.bytes = e'.bytes) : e = e' := by
  have comma : IsAscii ',' := by decide
  have hash : IsAscii '#' := by decide
  have number (n : Int) : ',' ∉ signed n := not_mem_signed rfl (by decide) n
  obtain ⟨key, field, day, hid, hkey, hfield, hday⟩ := h.id_parts
  obtain ⟨key', field', day', hid', hkey', hfield', hday'⟩ := h'.id_parts
  rw [bytes_eq hid, bytes_eq hid'] at hbytes
  obtain ⟨htable, afterTable⟩ := eq_of_utf8_append_cons comma h.table_comma h'.table_comma hbytes
  obtain ⟨hkeys, afterKey⟩ := eq_of_utf8_append_cons hash hkey hkey' afterTable
  obtain ⟨hfields, afterField⟩ := eq_of_utf8_append_cons hash hfield hfield' afterKey
  obtain ⟨hdays, afterId⟩ := eq_of_utf8_append_cons comma hday hday' afterField
  obtain ⟨hnanos, afterNanos⟩ := eq_of_utf8_append_cons comma (number _) (number _) afterId
  have hids : e.id = e'.id := by
    rw [← String.toList_inj, hid, hid', hkeys, hfields, hdays]
  have hvalue : e.value = e'.value := List.append_cancel_right afterNanos
  have htables := String.toList_inj.1 htable
  have hnumbers := signed_injective hnanos
  cases e
  cases e'
  simp_all

end Entry

def entryOf (p : Point) (t : Instant) (field : String × Value) : Entry :=
  ⟨field.2.table, seriesIdOf p t field.1, t.unixNanos, field.2.rowBytes⟩

def entries (p : Point) : List Entry :=
  match p.time with
  | none => []
  | some t => p.liveFields.map (entryOf p t)

theorem flatten_pieces (p : Point) {t : Instant} {n : Timestamp} (hn : n.val = t.unixNanos)
    (field : String × Value) : (pieces p t n field).flatten = (entryOf p t field).bytes := by
  simp only [pieces, hn, Entry.bytes, entryOf, List.flatten_cons, List.flatten_nil,
    List.append_nil]

end BulkRow

theorem Time.Instant.timestamp?_eq_some_iff {t : Instant} {n : Timestamp} :
    t.timestamp? = some n ↔ n.val = t.unixNanos := by
  unfold Instant.timestamp? Timestamp.ofInt?
  constructor
  · intro h
    obtain ⟨_, hn⟩ := Option.dite_none_right_eq_some.1 h
    obtain rfl := Option.some.inj hn
    rfl
  · intro h
    have hn := n.property
    rw [h] at hn
    rw [dif_pos hn]
    exact congrArg some (Subtype.ext h.symm)

namespace BulkRow
variable {p : Point} {out : List (List (List UInt8))}

theorem rows_eq_ok_iff : rows p = .ok out ↔ ∃ t n, p.time = some t ∧ t.timestamp? = some n ∧
    out = p.liveFields.map (pieces p t n) := by
  constructor
  · intro h
    unfold rows at h
    split at h
    · exact absurd h (by simp)
    · rename_i t htime
      split at h
      · exact absurd h (by simp)
      · rename_i n hn
        exact ⟨t, n, htime, hn, (Except.ok.inj h).symm⟩
  · rintro ⟨t, n, htime, hn, rfl⟩
    unfold rows
    simp only [htime, hn]

theorem flatten_of_rows (h : rows p = .ok out) :
    out.map List.flatten = (entries p).map Entry.bytes := by
  obtain ⟨t, n, htime, hn, rfl⟩ := rows_eq_ok_iff.1 h
  rw [Instant.timestamp?_eq_some_iff] at hn
  simp only [entries, htime, List.map_map]
  apply List.map_congr_left
  intro field _
  exact flatten_pieces p hn field

theorem exists_rows {t : Instant} (htime : p.time = some t) (hlow : minTimestamp ≤ t.unixNanos)
    (hhigh : t.unixNanos ≤ maxTimestamp) : ∃ out, rows p = .ok out :=
  ⟨_, rows_eq_ok_iff.2 ⟨t, ⟨t.unixNanos, hlow, hhigh⟩, htime,
    Instant.timestamp?_eq_some_iff.2 rfl, rfl⟩⟩

end BulkRow

section Writing
variable {p : Point} {points : List Point} {sink sink' : Sink} {done summary : WriteSummary}

theorem writePoint_bulkRows (h : writePoint .bulkRows p sink done = (sink', .ok summary)) :
    sink'.bytes = sink.bytes ++ (BulkRow.entries p).flatMap (·.bytes) ∧
      summary.lines = done.lines + (BulkRow.entries p).length := by
  unfold writePoint at h
  split at h
  · exact absurd (Prod.mk.inj h).2 (by simp)
  · rename_i rendered hrender
    obtain ⟨out, hrows, rfl⟩ := map_eq_ok_iff.1 hrender
    have hflat := BulkRow.flatten_of_rows hrows
    split at h
    · exact absurd (Prod.mk.inj h).2 (by simp)
    · rename_i next hwrite
      obtain ⟨rfl, hsummary⟩ := Prod.mk.inj h
      obtain rfl := Except.ok.inj hsummary
      constructor
      · rw [Sink.bytes_of_put (Counter.put_of_writeAll hwrite), List.flatten_flatten, hflat,
        List.flatMap_def]
      · have hlength := congrArg List.length hflat
        rw [List.length_map, List.length_map] at hlength
        exact congrArg (done.lines + ·) hlength

/-- What has been written when all points are is what the rows of the points say. -/
theorem writePoints_bulkRows
    (h : writePoints .bulkRows points sink done = (sink', .ok summary)) :
    sink'.bytes = sink.bytes ++ (points.flatMap BulkRow.entries).flatMap (·.bytes) ∧
      summary.lines = done.lines + (points.flatMap BulkRow.entries).length := by
  induction points generalizing sink done with
  | nil =>
    obtain ⟨rfl, hsummary⟩ := Prod.mk.inj h
    obtain rfl := Except.ok.inj hsummary
    simp
  | cons p rest ih =>
    rw [writePoints] at h
    split at h
    · rename_i next between hpoint
      obtain ⟨hbytes, hlines⟩ := writePoint_bulkRows hpoint
      obtain ⟨hbytes', hlines'⟩ := ih h
      rw [List.flatMap_cons, List.flatMap_append, List.length_append]
      exact ⟨by rw [hbytes', hbytes, List.append_assoc], by rw [hlines', hlines, Nat.add_assoc]⟩
    · exact absurd (Prod.mk.inj h).2 (by simp)

theorem exists_writePoints (hsink : sink.room = none)
    (hpoints : ∀ p ∈ points, ∃ out, BulkRow.rows p = .ok out) :
    ∃ sink' summary, writePoints .bulkRows points sink done = (sink', .ok summary) := by
  induction points generalizing sink done with
  | nil => exact ⟨sink, done, rfl⟩
  | cons p rest ih =>
    obtain ⟨out, hrows⟩ := hpoints p (by simp)
    have hrender : Format.render .bulkRows p = .ok ⟨out.flatten, out.length⟩ := by
      simp only [Format.render, hrows, Except.map]
    rw [writePoints, Format.writePoint_of_render hrender, Sink.put_of_unbounded hsink]
    exact ih rfl fun q hq => hpoints q (by simp [hq])

end Writing
end SeriesBench
