import SeriesBench.Fleet.Writing
import SeriesBench.Proofs.Fleet.Coverage
import SeriesBench.Proofs.Point.Decoding

set_option autoImplicit false

namespace SeriesBench
open SeriesBench.Time

namespace Simulator
variable {s s' : Simulator} {p : Point}

structure Started (f : Fleet) (start stop : Instant) (interval : Duration) (seed : UInt64)
    (s : Simulator) : Prop where
  interval_pos : 0 < interval.nanos
  hosts_eq : s.hosts = f.hosts.toArray
  usage_eq : s.usage = ((f.hosts.mapM fun _ => cpuMetrics.mapM fun _ => firstReading).run
    (Random.Generator.ofSeed seed)).1.toArray
  now_eq : s.now = start
  stop_eq : s.stop = stop
  interval_eq : s.interval = interval
  nextHost_eq : s.nextHost = 0

theorem started_of_start {f : Fleet} {start stop : Instant} {interval : Duration} {seed : UInt64}
    (h : Simulator.start f start stop interval seed = .ok s) :
    Started f start stop interval seed s := by
  unfold Simulator.start at h
  split at h
  · exact absurd h (by simp)
  · rename_i hzero
    split at h
    · exact absurd h (by simp)
    · split at h
      · exact absurd h (by simp)
      · obtain rfl := Except.ok.inj h
        have hpos : 0 < interval.nanos := by
          simpa [Duration.isZero, Nat.pos_iff_ne_zero] using hzero
        exact ⟨hpos, rfl, rfl, rfl, rfl, rfl, rfl⟩

/-- All that a step does, but for the readings that it draws. -/
structure Step (s : Simulator) (p : Point) (s' : Simulator) : Prop where
  not_ended : ¬ s.stop ≤ s.now
  reports : ∃ h readings, s.hosts[s.nextHost]? = some h ∧ s.usage[s.nextHost]? = some readings ∧
    p = point h readings s.now
  hosts_eq : s'.hosts = s.hosts
  usage_size : s'.usage.size = s.usage.size
  stop_eq : s'.stop = s.stop
  interval_eq : s'.interval = s.interval
  now_eq : s'.now = if s.nextHost + 1 = s.hosts.size then
    (s.now.add? s.interval.nanos).getD s.stop else s.now
  nextHost_eq : s'.nextHost = if s.nextHost + 1 = s.hosts.size then 0 else s.nextHost + 1

theorem step_of_next? (h : s.next? = some (p, s')) : Step s p s' := by
  unfold next? at h
  split at h
  · exact absurd h (by simp)
  · rename_i hnot
    split at h
    · rename_i host readings hhost hreadings
      obtain ⟨rfl, rfl⟩ := Prod.mk.inj (Option.some.inj h)
      exact ⟨hnot, ⟨host, readings, hhost, hreadings, rfl⟩, rfl, Array.size_setIfInBounds, rfl, rfl,
        rfl, rfl⟩
    · exact absurd h (by simp)

end Simulator

section Stepping
variable {f : Fleet} {start stop : Instant}

def IsReading (f : Fleet) (start stop : Instant) (p : Point) : Prop :=
  ∃ h ∈ f.hosts, ∃ (readings : List Float) (t : Instant), p = Simulator.point h readings t ∧
    t.isLeap = false ∧ start.unixNanos ≤ t.unixNanos ∧ t.unixNanos < stop.unixNanos

namespace Simulator

structure Underway (f : Fleet) (start stop : Instant) (s : Simulator) : Prop where
  hosts_eq : s.hosts = f.hosts.toArray
  stop_eq : s.stop = stop
  stop_steady : stop.isLeap = false
  now_steady : s.now.isLeap = false
  start_le_now : start.unixNanos ≤ s.now.unixNanos

variable {s s' : Simulator} {p : Point}

theorem underway_start {interval : Duration} {seed : UInt64} (hstart : start.isLeap = false)
    (hstop : stop.isLeap = false) (h : Simulator.start f start stop interval seed = .ok s) :
    s.Underway f start stop := by
  have hs := started_of_start h
  exact ⟨hs.hosts_eq, hs.stop_eq, hstop, hs.now_eq ▸ hstart, hs.now_eq ▸ Int.le_refl _⟩

theorem Underway.now_lt_stop (h : s.Underway f start stop) (hstep : Step s p s') :
    s.now.unixNanos < stop.unixNanos := by
  have hnot := hstep.not_ended
  rw [h.stop_eq, Instant.le_iff_unixNanos h.stop_steady h.now_steady] at hnot
  omega

theorem Underway.isReading (h : s.Underway f start stop) (hstep : Step s p s') :
    IsReading f start stop p := by
  obtain ⟨host, readings, hhost, -, rfl⟩ := hstep.reports
  have hmem : host ∈ f.hosts := by
    rw [h.hosts_eq] at hhost
    exact List.mem_toArray.1 (Array.mem_of_getElem? hhost)
  exact ⟨host, hmem, readings, s.now, rfl, h.now_steady, h.start_le_now, h.now_lt_stop hstep⟩

theorem Underway.step (h : s.Underway f start stop) (hstep : Step s p s') :
    s'.Underway f start stop := by
  have hlow := h.start_le_now
  have hhigh := h.now_lt_stop hstep
  have clock : s'.now.isLeap = false ∧ start.unixNanos ≤ s'.now.unixNanos := by
    rw [hstep.now_eq]
    split
    · cases hadd : s.now.add? s.interval.nanos with
      | none =>
        -- A clock that cannot go on is set to the end.
        rw [Option.getD_none, h.stop_eq]
        exact ⟨h.stop_steady, by omega⟩
      | some t =>
        obtain ⟨hsteady, hnanos⟩ := Instant.unixNanos_of_add? h.now_steady hadd
        rw [Option.getD_some]
        exact ⟨hsteady, by omega⟩
    · exact ⟨h.now_steady, hlow⟩
  exact ⟨hstep.hosts_eq.trans h.hosts_eq, hstep.stop_eq.trans h.stop_eq, h.stop_steady, clock.1,
    clock.2⟩

theorem Underway.run (h : s.Underway f start stop) (n : Nat) :
    (∀ p ∈ (s.take n).1, IsReading f start stop p) ∧ (s.take n).2.Underway f start stop := by
  induction n with
  | zero => exact ⟨List.forall_mem_nil _, h⟩
  | succ n ih =>
    obtain ⟨hpoints, hunderway⟩ := ih
    cases hnext : (s.take n).2.next? with
    | none =>
      rw [take_add_of_ended hnext 1]
      exact ⟨hpoints, hunderway⟩
    | some r =>
      have hstep := step_of_next? hnext
      rw [take_snoc hnext]
      refine ⟨List.forall_mem_append.2 ⟨hpoints, ?_⟩, hunderway.step hstep⟩
      exact List.forall_mem_singleton.2 (hunderway.isReading hstep)

end Simulator
end Stepping

namespace Simulator
variable {h : Host} {readings : List Float} {t : Instant}

theorem idTags_point : (point h readings t).idTags = h.tags := by
  have live : (point h readings t).liveTags = h.tags.map fun tag => (tag.1, .text tag.2) := by
    rw [← Slot.filled_map_some (h.tags.map _), List.map_map]
    rfl
  rw [Point.idTags, live, List.map_map]
  simp [Value.chars, Function.comp_def]

theorem mem_entries_point {e : BulkRow.Entry} (he : e ∈ BulkRow.entries (point h readings t)) :
    ∃ metric ∈ cpuMetrics, ∃ x, e = BulkRow.entryOf (point h readings t) t (metric, .real x) := by
  obtain ⟨u, hu, field, hfield, rfl⟩ := BulkRow.mem_entries_iff.1 he
  obtain rfl := Option.some.inj hu
  have live : (point h readings t).liveFields =
      (cpuMetrics.zip readings).map fun m => (m.1, .real m.2) := by
    rw [← Slot.filled_map_some ((cpuMetrics.zip readings).map _), List.map_map]
    rfl
  rw [live] at hfield
  obtain ⟨⟨metric, x⟩, hm, rfl⟩ := List.mem_map.1 hfield
  exact ⟨metric, (List.of_mem_zip hm).1, x, rfl⟩

end Simulator

/-- A row of one series of the catalog, at a time of that series and of the dataset. -/
structure Filed (series : List Series) (start stop : Instant) (e : BulkRow.Entry) : Prop where
  once : (series.map fun x => (x.table, x.id)).count (e.table, e.id) = 1
  mem_interval : ∀ x ∈ series, x.table = e.table → x.id = e.id → e.nanos ∈ x.interval
  start_le : start.unixNanos ≤ e.nanos
  lt_stop : e.nanos < stop.unixNanos

section Loading
variable {scale : Nat} {seed : UInt64} {start stop : Instant} {series : List Series}

theorem Fleet.nodup_ids_of_catalog (h : (generate scale seed).catalog start stop = .ok series) :
    (series.map (·.id)).Nodup :=
  nodup_ids (nodup_names scale seed) (nodup_daysBetween start stop) (catalog_generate h)

theorem Fleet.exists_daySeries (hstart : start.isLeap = false) (hstop : stop.isLeap = false)
    (hcatalog : (generate scale seed).catalog start stop = .ok series) {h : Host}
    (hhost : h ∈ (generate scale seed).hosts) {metric : String} (hmetric : metric ∈ cpuMetrics)
    {t : Instant} (ht : t.isLeap = false) (hlow : start.unixNanos ≤ t.unixNanos)
    (hhigh : t.unixNanos < stop.unixNanos) : ∃ x ∈ series, DaySeries h metric t.day x := by
  have order : start < stop := (Instant.lt_iff_unixNanos hstart hstop).2 (by omega)
  have hday : t.day ∈ daysBetween start stop := by
    rw [mem_daysBetween_iff hstart hstop order, Instant.day_eq ht]
    simp only [nanosPerDay]
    omega
  have hkey : (h, metric, t.day) ∈ (generate scale seed).keys (daysBetween start stop) := by
    simp only [keys, List.mem_product]
    exact ⟨hhost, hmetric, hday⟩
  exact exists_right_of_mem (catalog_generate hcatalog) hkey

theorem DaySeries.mem_interval {h : Host} {metric : String} {t : Instant} {x : Series}
    (hx : DaySeries h metric t.day x) (ht : t.isLeap = false) : t.unixNanos ∈ x.interval := by
  rw [Interval.mem_iff, hx.start_eq, hx.stop_eq, t.unixNanos_lt_iff, ht]
  exact ⟨t.day_le_unixNanos, by simp⟩

theorem filed_of_isReading (hstart : start.isLeap = false) (hstop : stop.isLeap = false)
    (hcatalog : (Fleet.generate scale seed).catalog start stop = .ok series) {p : Point}
    (hp : IsReading (Fleet.generate scale seed) start stop p) {e : BulkRow.Entry}
    (he : e ∈ BulkRow.entries p) : BulkRow.ReadsAs e.bytes e ∧ Filed series start stop e := by
  obtain ⟨host, hhost, readings, t, rfl, ht, hlow, hhigh⟩ := hp
  obtain ⟨metric, hmetric, value, rfl⟩ := Simulator.mem_entries_point he
  obtain ⟨id, -, hdrawn⟩ := exists_left_of_mem (Fleet.drawn_generate scale seed) hhost
  have htags : (Simulator.point host readings t).idTags = host.tags := Simulator.idTags_point
  obtain ⟨x, hx, hmade⟩ :=
    Fleet.exists_daySeries hstart hstop hcatalog hhost hmetric ht hlow hhigh
  have hids := Fleet.nodup_ids_of_catalog hcatalog
  have hid : x.id = BulkRow.seriesIdOf (Simulator.point host readings t) t metric := by
    rw [hmade.id_eq, ← htags]
    rfl
  refine ⟨BulkRow.readsAs_entryOf (htags ▸ hdrawn.separable hmetric), ⟨?_, ?_, hlow, hhigh⟩⟩
  · have hpairs : (series.map fun x => (x.table, x.id)).Nodup := by
      apply List.Nodup.of_map Prod.snd
      rwa [List.map_map]
    exact List.count_eq_one_of_mem hpairs (List.mem_map.2 ⟨x, hx, Prod.ext hmade.table_eq hid⟩)
  · intro x' hx' _ hid'
    obtain rfl := List.inj_on_of_nodup_map hids hx' hx (hid'.trans hid.symm)
    exact hmade.mem_interval ht

/-- Every row that is written of a simulation is a row of just one series of the catalog for the
same time, and lies within what that series holds. -/
theorem Simulator.loaded_rows_filed {interval : Duration} {simulationSeed : UInt64} {s : Simulator}
    (hstart : start.isLeap = false) (hstop : stop.isLeap = false)
    (hsimulation : Simulator.start (Fleet.generate scale seed) start stop interval simulationSeed =
      .ok s)
    (hcatalog : (Fleet.generate scale seed).catalog start stop = .ok series) (n : Nat)
    {sink sink' : Sink} {done summary : WriteSummary}
    (hwrite : s.writeFirst .bulkRows n sink done = (sink', .ok summary)) :
    sink'.bytes = sink.bytes ++ ((s.take n).1.flatMap BulkRow.entries).flatMap (·.bytes) ∧
      summary.lines = done.lines + ((s.take n).1.flatMap BulkRow.entries).length ∧
      ∀ e ∈ (s.take n).1.flatMap BulkRow.entries,
        BulkRow.ReadsAs e.bytes e ∧ Filed series start stop e := by
  rw [writeFirst_eq_writePoints] at hwrite
  obtain ⟨hbytes, hlines⟩ := writePoints_bulkRows hwrite
  refine ⟨hbytes, hlines, ?_⟩
  intro e he
  obtain ⟨p, hp, hentry⟩ := List.mem_flatMap.1 he
  have hreading := ((underway_start hstart hstop hsimulation).run n).1 p hp
  exact filed_of_isReading hstart hstop hcatalog hreading hentry

theorem Simulator.exists_writeFirst {f : Fleet} {s : Simulator} (h : s.Underway f start stop)
    (hlow : minTimestamp ≤ start.unixNanos) (hhigh : stop.unixNanos ≤ maxTimestamp) (n : Nat)
    {sink : Sink} (hroom : sink.room = none) (done : WriteSummary) :
    ∃ sink' summary, s.writeFirst .bulkRows n sink done = (sink', .ok summary) := by
  rw [writeFirst_eq_writePoints]
  apply exists_writePoints hroom
  intro p hp
  obtain ⟨_, -, _, _, rfl, -, hstart, hstop⟩ := (h.run n).1 p hp
  exact BulkRow.exists_rows rfl (by omega) (by omega)

end Loading

def eveStart : Instant := Timestamp.instant ⟨-90000000000000, by decide⟩

def eveStop : Instant := Timestamp.instant ⟨3600000000000, by decide⟩

/-- Two hosts, of which the first reports again after twenty-five hours. -/
theorem eveLoad_filed : ∃ s series sink summary,
    eveStart.isLeap = false ∧ eveStop.isLeap = false ∧
    Simulator.start (Fleet.generate 2 7) eveStart eveStop (Duration.ofSeconds 90000) 11 = .ok s ∧
    (Fleet.generate 2 7).catalog eveStart eveStop = .ok series ∧
    s.writeFirst .bulkRows 3 {} {} = (sink, .ok summary) ∧ summary.lines = 30 ∧
    sink.bytes = ((s.take 3).1.flatMap BulkRow.entries).flatMap (·.bytes) ∧
    ∀ e ∈ (s.take 3).1.flatMap BulkRow.entries,
      BulkRow.ReadsAs e.bytes e ∧ Filed series eveStart eveStop e := by
  obtain ⟨series, hcatalog⟩ : ∃ series, (Fleet.generate 2 7).catalog eveStart eveStop = .ok series :=
    Fleet.exists_catalog 2 7 (by decide) (by decide)
  obtain ⟨s, hs, hlength⟩ : ∃ s,
      Simulator.start (Fleet.generate 2 7) eveStart eveStop (Duration.ofSeconds 90000) 11 = .ok s ∧
      ((s.take 3).1.flatMap BulkRow.entries).length = 30 := ⟨_, rfl, rfl⟩
  have hroom : ({} : Sink).room = none := rfl
  obtain ⟨sink, summary, hwrite⟩ := Simulator.exists_writeFirst
    (Simulator.underway_start rfl rfl hs) (by decide) (by decide) 3 hroom {}
  obtain ⟨hbytes, hlines, hfiled⟩ := Simulator.loaded_rows_filed rfl rfl hs hcatalog 3 hwrite
  rw [hlength] at hlines
  exact ⟨s, series, sink, summary, rfl, rfl, hs, hcatalog, hwrite, hlines, hbytes, hfiled⟩

end SeriesBench
