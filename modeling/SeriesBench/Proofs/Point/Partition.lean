import SeriesBench.Proofs.Point.Entries
import SeriesBench.Proofs.Series.IdText

set_option autoImplicit false

namespace SeriesBench
open SeriesBench.Time SeriesBench.Text

theorem Time.Instant.day_le_unixNanos (t : Instant) : t.day * nanosPerDay ≤ t.unixNanos := by
  rw [Instant.unixNanos_eq]
  simp only [Instant.day, secondsPerDay, nanosPerDay]
  omega

theorem Time.Instant.unixNanos_lt (t : Instant) :
    t.unixNanos < (t.day + 1) * nanosPerDay + nanosPerSecond := by
  have hnanos := t.nanos_lt
  rw [Instant.unixNanos_eq]
  simp only [nanosPerSecond] at hnanos ⊢
  simp only [Instant.day, secondsPerDay, nanosPerDay]
  omega

/-- Only a leap second leads beyond the day that it falls on. -/
theorem Time.Instant.unixNanos_lt_iff (t : Instant) :
    t.unixNanos < (t.day + 1) * nanosPerDay ↔ ¬ (t.isLeap = true ∧ t.secondOfDay = 86399) := by
  have hnanos := t.nanos_lt
  have hleap : t.isLeap = true ↔ 1000000000 ≤ t.nanos := decide_eq_true_iff
  rw [Instant.unixNanos_eq, hleap]
  simp only [nanosPerSecond] at hnanos
  simp only [Instant.day, Instant.secondOfDay, secondsPerDay, nanosPerDay]
  omega

namespace BulkRow

theorem interval_of_seriesIdOf {p : Point} {t : Instant} {table field : String} {s : Series}
    (h : Series.ofId table (seriesIdOf p t field) = .ok s) :
    s.interval.start = t.day * nanosPerDay ∧ s.interval.stop = (t.day + 1) * nanosPerDay := by
  obtain ⟨hlow, hhigh⟩ := Date.year_bounds t.day_bounds.1 t.day_bounds.2
  have hinterval := interval_of_ofId_seriesId (Date.valid_ofDay t.day) hlow hhigh h
  rw [Date.toDay_ofDay] at hinterval
  exact dayInterval?_eq_some hinterval

theorem mem_entries_iff {p : Point} {e : Entry} :
    e ∈ entries p ↔ ∃ t, p.time = some t ∧ ∃ field ∈ p.liveFields, entryOf p t field = e := by
  unfold entries
  cases p.time with
  | none => simp
  | some t => simp

/-- A row that can be filed lies in the day that it is filed under, just when its time is not in a
leap second at the end of that day. -/
theorem mem_partition_iff {p : Point} {out : List (List (List UInt8))} (h : rows p = .ok out) :
    out.map List.flatten = (entries p).map (·.bytes) ∧
    ∀ t, p.time = some t → ∀ e ∈ entries p, ∀ s, Series.ofId e.table e.id = .ok s →
      (e.nanos ∈ s.interval ↔ ¬ (t.isLeap = true ∧ t.secondOfDay = 86399)) := by
  refine ⟨flatten_of_rows h, ?_⟩
  intro t htime e he s hs
  obtain ⟨u, hu, field, -, rfl⟩ := mem_entries_iff.1 he
  obtain rfl : t = u := Option.some.inj (htime.symm.trans hu)
  obtain ⟨hstart, hstop⟩ := interval_of_seriesIdOf hs
  change s.interval.start ≤ t.unixNanos ∧ t.unixNanos < s.interval.stop ↔ _
  rw [hstart, hstop, ← t.unixNanos_lt_iff]
  exact and_iff_right t.day_le_unixNanos

def eveningPoint : Point where
  measurement := "cpu"
  tags := [("host", some (.text "a=b"))]
  fields := [("usage_user", some (.integer 1))]
  time := some ⟨-1, 999999999, by decide, by decide, by decide⟩

theorem eveningPoint_mem_partition : ∃ out t e s, rows eveningPoint = .ok out ∧
    eveningPoint.time = some t ∧ e ∈ entries eveningPoint ∧ Series.ofId e.table e.id = .ok s ∧
    out.map List.flatten = (entries eveningPoint).map (·.bytes) ∧
    ¬ (t.isLeap = true ∧ t.secondOfDay = 86399) ∧ e.nanos ∈ s.interval := by
  obtain ⟨hbytes, hiff⟩ := mem_partition_iff (p := eveningPoint) rfl
  have hmem : (⟨"series_bigint", "cpu,host=a=b#usage_user#1969-12-31", -1, [49]⟩ : Entry) ∈
      entries eveningPoint := by decide
  exact ⟨_, _, _, _, rfl, rfl, hmem, rfl, hbytes, by decide,
    (hiff _ rfl _ hmem _ rfl).2 (by decide)⟩

/-- Half a second into the leap second at the end of 2016. -/
def leapPoint : Point where
  measurement := "cpu"
  fields := [("usage_user", some (.integer 1))]
  time := some ⟨1483228799, 1500000000, by decide, by decide, by decide⟩

theorem leapPoint_not_mem_partition : ¬ ∀ (p : Point) (out : List (List (List UInt8))),
    rows p = .ok out → ∀ e ∈ entries p, ∀ s, Series.ofId e.table e.id = .ok s →
      e.nanos ∈ s.interval := by
  intro h
  obtain ⟨s, hs, hstop⟩ : ∃ s, Series.ofId "series_bigint" "cpu#usage_user#2016-12-31" = .ok s ∧
      s.interval.stop = 1483228800000000000 := ⟨_, rfl, rfl⟩
  have hmem := h leapPoint _ rfl ⟨"series_bigint", "cpu#usage_user#2016-12-31",
    1483228800500000000, [49]⟩ (by decide) s hs
  rw [Interval.mem_iff, hstop] at hmem
  exact absurd hmem.2 (by decide)

end BulkRow
end SeriesBench
