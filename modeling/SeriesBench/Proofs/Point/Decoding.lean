import SeriesBench.Proofs.Point.Partition
import SeriesBench.Proofs.StringMap

set_option autoImplicit false

namespace SeriesBench
open SeriesBench.Time SeriesBench.Text

theorem Value.not_mem_table {c : Char} (hletter : c.isLower = false) (hbar : c ≠ '_') (v : Value) :
    c ∉ v.table.toList := by
  have names : ∀ name ∈ ["series_bigint", "series_double", "series_boolean", "series_blob"],
      name.toList.all (fun c => c.isLower || c == '_') = true := by decide
  have table : v.table ∈ ["series_bigint", "series_double", "series_boolean", "series_blob"] := by
    cases v <;> simp [Value.table]
  intro h
  have known := List.all_eq_true.1 (names v.table table) c h
  simp [hletter, hbar] at known

def Point.idTags (p : Point) : List (String × String) :=
  p.liveTags.map fun tag => (tag.1, String.ofList tag.2.chars)

namespace BulkRow
variable {p : Point} {t : Instant} {field : String × Value}

def ReadsAs (row : List UInt8) (e : Entry) : Prop :=
  ∀ e' : Entry, e'.Delimited ∧ e'.bytes = row ↔ e' = e

/-- What the row of a field says, in the terms of the point that it comes from. -/
structure Decoded (p : Point) (t : Instant) (field : String × Value) (e : Entry) (s : Series) :
    Prop where
  table_eq : e.table = field.2.table
  nanos_eq : e.nanos = t.unixNanos
  value_eq : e.value = field.2.rowBytes
  filed : Series.ofId e.table e.id = .ok s
  measurement_eq : s.measurement = p.measurement
  field_eq : s.field = field.1
  tags_eq : ∀ key, s.tags.get? key = (p.idTags.reverse.find? fun tag => tag.1 == key).map (·.2)
  start_eq : s.interval.start = t.day * nanosPerDay
  stop_eq : s.interval.stop = (t.day + 1) * nanosPerDay

theorem delimited_entryOf (h : Separable p.measurement p.idTags field.1) :
    (entryOf p t field).Delimited where
  table_comma := field.2.not_mem_table rfl (by decide)
  id_parts := ⟨_, _, _, toList_seriesId p.measurement p.idTags field.1 t.date,
    hash_not_mem_keyChars h, h.field_hash, not_mem_text rfl (by decide) (by decide) t.date⟩

theorem readsAs_entryOf (h : Separable p.measurement p.idTags field.1) :
    ReadsAs (entryOf p t field).bytes (entryOf p t field) := by
  intro e
  constructor
  · rintro ⟨hdelimited, hbytes⟩
    exact hdelimited.eq_of_bytes (delimited_entryOf h) hbytes
  · rintro rfl
    exact ⟨delimited_entryOf h, rfl⟩

theorem exists_decoded (h : Separable p.measurement p.idTags field.1)
    (hlow : minTimestamp ≤ t.day * nanosPerDay) (hhigh : (t.day + 1) * nanosPerDay ≤ maxTimestamp) :
    ∃ s, Decoded p t field (entryOf p t field) s := by
  obtain ⟨hmin, hmax⟩ := Date.year_bounds t.day_bounds.1 t.day_bounds.2
  obtain ⟨interval, hinterval⟩ := exists_dayInterval hlow hhigh
  have hfiled := ofId_seriesId h (Date.valid_ofDay t.day) hmin hmax field.2.table
  rw [Date.toDay_ofDay, hinterval] at hfiled
  obtain ⟨hstart, hstop⟩ := dayInterval?_eq_some hinterval
  exact ⟨_, rfl, rfl, rfl, hfiled, rfl, rfl, StringMap.get?_ofList p.idTags, hstart, hstop⟩

/-- On a day all of which can be told in nanoseconds, every field has its row. -/
theorem rows_decode (htime : p.time = some t)
    (hfields : ∀ field ∈ p.liveFields, Separable p.measurement p.idTags field.1)
    (hfirst : Date.toDay ⟨1677, 9, 22⟩ ≤ t.day) (hlast : t.day ≤ Date.toDay ⟨2262, 4, 10⟩) :
    ∃ out, rows p = .ok out ∧ List.Forall₂ (fun field row =>
      ∃ e s, ReadsAs row.flatten e ∧ Decoded p t field e s) p.liveFields out := by
  have first : Date.toDay ⟨1677, 9, 22⟩ = -106751 := by decide
  have last : Date.toDay ⟨2262, 4, 10⟩ = 106750 := by decide
  rw [first] at hfirst
  rw [last] at hlast
  have hlow : minTimestamp ≤ t.day * nanosPerDay := by
    simp only [minTimestamp, nanosPerDay]
    omega
  have hhigh : (t.day + 1) * nanosPerDay + nanosPerSecond ≤ maxTimestamp := by
    simp only [maxTimestamp, nanosPerDay, nanosPerSecond]
    omega
  -- The day may end with a leap second, whose nanoseconds are those of the day after.
  have htime' : t.unixNanos < (t.day + 1) * nanosPerDay + nanosPerSecond := t.unixNanos_lt
  obtain ⟨out, hout⟩ := exists_rows htime (Int.le_trans hlow t.day_le_unixNanos) (by omega)
  refine ⟨out, hout, ?_⟩
  obtain ⟨u, n, hu, hn, rfl⟩ := rows_eq_ok_iff.1 hout
  obtain rfl : t = u := Option.some.inj (htime.symm.trans hu)
  rw [Instant.timestamp?_eq_some_iff] at hn
  rw [List.forall₂_map_right_iff, List.forall₂_same]
  intro field hfield
  obtain ⟨s, hs⟩ := exists_decoded (hfields field hfield) hlow (by omega)
  rw [flatten_pieces p hn field]
  exact ⟨_, s, readsAs_entryOf (hfields field hfield), hs⟩

/-- In a leap second at the end of a leap day, with a key given twice, an empty key, a slot that is
cleared and a value of separators. -/
def ornatePoint : Point where
  measurement := "a=b"
  tags := [("host", some (.text "x")), ("", some (.text "k=v=")), ("rack", none),
    ("host", some (.boolean true))]
  fields := [("idle", none), ("us,er", some (.bytes [44, 35, 10, 255])),
    ("n", some (.integer .minValue))]
  time := some ⟨-57974401, 1999999999, by decide, by decide, by decide⟩

theorem ornatePoint_decode : ∃ t out, ornatePoint.time = some t ∧ t.date = ⟨1968, 2, 29⟩ ∧
    (∀ field ∈ ornatePoint.liveFields,
      Separable ornatePoint.measurement ornatePoint.idTags field.1) ∧
    Date.toDay ⟨1677, 9, 22⟩ ≤ t.day ∧ t.day ≤ Date.toDay ⟨2262, 4, 10⟩ ∧
    rows ornatePoint = .ok out ∧ List.Forall₂ (fun field row =>
      ∃ e s, ReadsAs row.flatten e ∧ Decoded ornatePoint t field e s) ornatePoint.liveFields out := by
  have fields : ∀ field ∈ ornatePoint.liveFields, field.1.toList ≠ [] ∧ '#' ∉ field.1.toList := by
    decide
  have separable : ∀ field ∈ ornatePoint.liveFields,
      Separable ornatePoint.measurement ornatePoint.idTags field.1 := by
    intro field hfield
    obtain ⟨hne, hhash⟩ := fields field hfield
    exact ⟨by decide, by decide, by decide, by decide, by decide, by decide, by decide, by decide,
      hne, hhash⟩
  obtain ⟨out, hrows, hdecode⟩ := rows_decode rfl separable (by decide) (by decide)
  exact ⟨_, out, rfl, by decide, separable, by decide, by decide, hrows, hdecode⟩

end BulkRow
end SeriesBench
