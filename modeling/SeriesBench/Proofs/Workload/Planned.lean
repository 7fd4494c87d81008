import SeriesBench.Proofs.Workload.Reading

set_option autoImplicit false

namespace SeriesBench
open SeriesBench.Time

def Query.Touches (q : Query) (day : Int) : Prop :=
  ∃ t : Instant, q.timeStart ≤ t ∧ t < q.timeEnd ∧ t.day = day

def Query.hostCount (q : Query) (scale : Nat) : Nat :=
  if q.tagSets.isEmpty then scale else q.tagSets.length

def Exactly (count : Nat) (statements : List Statement) : Prop :=
  statements.length = count ∧ (statements.map (·.seriesId)).Nodup

def Query.planName (q : Query) (side : AggregationSide) : String :=
  if q.hasForEvery then "for_every"
  else if !q.isAggregated then "no_aggregation"
  else match side with
    | .server => "with_server_aggregation"
    | .client => "without_server_aggregation"

/-- A bucket is read from one day, all else from the days of the window. -/
def Plan.Covers (q : Query) (perDay days : Nat) : Plan → Prop
  | .bucketed plan => (∃ span, q.span = .ok span ∧ Tiles span (plan.buckets.map (·.interval))) ∧
      ∀ e ∈ plan.buckets, Exactly perDay e.statements
  | .folded plan => Exactly (perDay * days) plan.statements
  | .raw plan => Exactly (perDay * days) plan.statements
  | .latest plan => Exactly (perDay * days) plan.statements

def Dataset.daysIn (d : Dataset) (i : Interval) : List Int :=
  (daysBetween d.start d.stop).filter i.touches

theorem nanos_of_width {width : Duration}
    (h : width = Cassandra.minute ∨ width = Cassandra.hour) :
    (width.nanos : Int) = 60000000000 ∨ (width.nanos : Int) = 3600000000000 := by
  rcases h with rfl | rfl
  · exact .inl rfl
  · exact .inr rfl

structure Catalogued (d : Dataset) (series : List Series) : Prop where
  start_steady : d.start.isLeap = false
  stop_steady : d.stop.isLeap = false
  ordered : d.start < d.stop
  scale_pos : 0 < d.scale
  catalog_eq : (Fleet.generate d.scale d.seed).catalog d.start d.stop = .ok series

namespace Catalogued
variable {d : Dataset} {series : List Series} (h : Catalogued d series)
include h

theorem mem_days (day : Int) : day ∈ daysBetween d.start d.stop ↔
    d.start.unixNanos / nanosPerDay ≤ day ∧ day * nanosPerDay < d.stop.unixNanos :=
  mem_daysBetween_iff h.start_steady h.stop_steady h.ordered day

theorem bounds : minTimestamp ≤ d.start.unixNanos / nanosPerDay * nanosPerDay ∧
    d.stop.unixNanos ≤ maxTimestamp := by
  have hlt := (Instant.lt_iff_unixNanos h.start_steady h.stop_steady).1 h.ordered
  have first := Fleet.bounds_of_catalog h.catalog_eq h.scale_pos
    ((h.mem_days (d.start.unixNanos / nanosPerDay)).2 (by simp only [nanosPerDay]; omega))
  have last := Fleet.bounds_of_catalog h.catalog_eq h.scale_pos
    ((h.mem_days ((d.stop.unixNanos - 1) / nanosPerDay)).2 (by simp only [nanosPerDay]; omega))
  simp only [nanosPerDay] at *
  omega

section Asked
variable {q : Query} {metrics : Nat} {ids : List Nat} {s : Selection}

theorem length_scan (hasks : q.Asks d metrics ids) (hs : q.Selects metrics ids s) (i : Interval) :
    (scan series s i).length =
      (if ids.isEmpty then d.scale else ids.length) * metrics * (d.daysIn i).length := by
  have hmetrics : s.fields.length = metrics := by
    rw [hs.fields_eq, List.length_take, Nat.min_eq_left hasks.metrics_le]
  have hfields : ∀ field ∈ s.fields, field ∈ cpuMetrics := by
    rw [hs.fields_eq]
    exact fun _ hfield => List.mem_of_mem_take hfield
  rw [SeriesBench.length_scan (Fleet.catalog_generate h.catalog_eq) hs.measurement_eq hfields,
    hs.filter_eq, countP_accepts d.seed hasks.nodup_ids hasks.ids_lt, hmetrics, Dataset.daysIn,
    List.countP_eq_length_filter, ← Nat.mul_assoc, Nat.mul_comm metrics]

theorem nodup_scan (hs : q.Selects metrics ids s) (i : Interval) :
    ((scan series s i).map (·.id)).Nodup := by
  have hids : (series.map (·.id)).Nodup :=
    nodup_ids (Fleet.nodup_names d.scale d.seed) (nodup_daysBetween d.start d.stop)
      (Fleet.catalog_generate h.catalog_eq)
  have hfields : s.fields.Nodup := by
    rw [hs.fields_eq]
    exact (by decide : cpuMetrics.Nodup).sublist (List.take_sublist _ _)
  exact SeriesBench.nodup_scan hids hfields i

theorem label_scan (s : Selection) (i : Interval) :
    ∀ x ∈ scan series s i, fieldLabel x.id = .ok x.field :=
  fun _ hx => Fleet.fieldLabel_of_catalog h.catalog_eq (mem_of_mem_scan hx)

theorem exactly_scan (hasks : q.Asks d metrics ids) (hs : q.Selects metrics ids s) {i : Interval}
    {statements : List Statement}
    (hstatements : statements.map (·.seriesId) = (scan series s i).map (·.id)) :
    Exactly ((if ids.isEmpty then d.scale else ids.length) * metrics * (d.daysIn i).length)
      statements := by
  refine ⟨?_, ?_⟩
  · have hlength := congrArg List.length hstatements
    rwa [List.length_map, List.length_map, h.length_scan hasks hs] at hlength
  · rw [hstatements]
    exact h.nodup_scan hs i

end Asked

theorem mem_daysIn_iff {q : Query} (hwindow : d.Holds q.timeStart q.timeEnd) {span : Interval}
    (hstart : span.start = q.timeStart.unixNanos) (hstop : span.stop = q.timeEnd.unixNanos)
    (day : Int) : day ∈ d.daysIn span ↔ q.Touches day := by
  have first := hwindow.start_le
  have last := hwindow.le_stop
  rw [Dataset.daysIn, List.mem_filter, h.mem_days, Interval.touches, decide_eq_true_iff, hstart,
    hstop]
  by_cases horder : q.timeStart < q.timeEnd
  · have hlt := (Instant.lt_iff_unixNanos hwindow.first_steady hwindow.last_steady).1 horder
    rw [Query.Touches, Instant.touches_iff hwindow.first_steady hwindow.last_steady horder]
    simp only [nanosPerDay]
    omega
  · have hnlt := (Instant.lt_iff_unixNanos hwindow.first_steady hwindow.last_steady).not.1 horder
    constructor
    · rintro ⟨-, hlt, -⟩
      exact absurd hlt hnlt
    · rintro ⟨t, hle, hlt, -⟩
      exact absurd (Instant.lt_of_le_of_lt hle hlt) horder

/-- A minute or an hour is part of one day. -/
theorem length_daysIn_cell {span : Interval} (hstart : d.start.unixNanos ≤ span.start)
    (hstop : span.stop ≤ d.stop.unixNanos) {width k : Int}
    (hwidth : width = 60000000000 ∨ width = 3600000000000) {b : Bucket}
    (hb : b.IsCell span width k) : (d.daysIn b.effective).length = 1 := by
  have hnonempty := hb.effective_nonempty
  have hfirst := hb.effective_start
  have hlast := hb.effective_stop
  rw [hb.raw_start] at hfirst
  rw [hb.raw_stop] at hlast
  have within : k * width ≤ b.effective.start ∧ b.effective.stop ≤ (k + 1) * width ∧
      d.start.unixNanos ≤ b.effective.start ∧ b.effective.stop ≤ d.stop.unixNanos := by omega
  clear hfirst hlast
  have only : b.effective.touches = fun day => day == b.effective.start / nanosPerDay := by
    funext day
    rw [Bool.eq_iff_iff, Interval.touches, decide_eq_true_iff, beq_iff_eq]
    simp only [nanosPerDay]
    rcases hwidth with rfl | rfl <;> omega
  have known : b.effective.start / nanosPerDay ∈ daysBetween d.start d.stop := by
    rw [h.mem_days]
    simp only [nanosPerDay]
    omega
  rw [Dataset.daysIn, only, ← List.countP_eq_length_filter]
  exact List.count_eq_one_of_mem (nodup_daysBetween _ _) known

theorem exists_groupBuckets {span : Interval} (hstart : d.start.unixNanos ≤ span.start)
    {width : Duration} (hwidth : width = Cassandra.minute ∨ width = Cassandra.hour) :
    ∃ buckets, groupBuckets span width = .ok buckets ∧
      ∀ b ∈ buckets, ∃ k, b.IsCell span width.nanos k := by
  have hnanos := nanos_of_width hwidth
  have hlow := h.bounds.1
  have hzero : width.isZero = false := by
    rcases hwidth with rfl | rfl <;> rfl
  cases hb : Buckets.over? span width with
  | none =>
    have refused := (Buckets.over?_eq_none_iff span width).1 hb
    simp only [Buckets.Refused, nanosPerDay, maxTimestamp] at refused hlow
    rcases hnanos with hn | hn <;> rw [hn] at refused <;> omega
  | some b =>
    refine ⟨b.toList, ?_, ?_⟩
    · rw [groupBuckets, hzero, if_neg (by simp), hb]
    · intro c hc
      have order := span.start_le_stop
      by_cases hempty : span.start = span.stop
      · rw [Buckets.toList, (Buckets.take_of_over?_empty hb hempty _).1] at hc
        exact absurd hc (by simp)
      · obtain ⟨k, -, hk⟩ := exists_left_of_mem (Buckets.toList_of_over? hb (by omega)) hc
        exact ⟨k, hk⟩

section Plans
variable {q : Query} {metrics : Nat} {ids : List Nat} {s : Selection} {p : Planner}
  (hasks : q.Asks d metrics ids) (hs : q.Selects metrics ids s)
  (hp : p.index = Index.ofList series)
include hasks hs hp

theorem exists_raw : ∃ plan, p.raw q = .ok plan ∧
    Exactly ((if ids.isEmpty then d.scale else ids.length) * metrics * (d.daysIn s.span).length)
      plan.statements := by
  obtain ⟨statements, hreads⟩ :=
    p.dialect.exists_reads "" q.orderBy s.span (h.label_scan s s.span)
  refine ⟨⟨s.fields, q.whereClause, statements⟩, ?_, ?_⟩
  · exact (Planner.raw_eq_ok_iff hp).2 ⟨s, hs.selection_eq, rfl, rfl, hreads⟩
  · exact h.exactly_scan hasks hs (Dialect.ids_of_reads hreads)

theorem exists_latest {spec : ForEvery} (hspec : q.forEvery = .ok spec) :
    ∃ plan, p.latest q = .ok plan ∧
      Exactly ((if ids.isEmpty then d.scale else ids.length) * metrics * (d.daysIn s.span).length)
        plan.statements := by
  obtain ⟨statements, hreads⟩ := p.dialect.exists_readsLatest s.span (h.label_scan s s.span)
  refine ⟨⟨s.fields, spec, statements⟩, ?_, ?_⟩
  · exact (Planner.latest_eq_ok_iff hp).2 ⟨s, hspec, hs.selection_eq, rfl, hreads⟩
  · exact h.exactly_scan hasks hs (Dialect.ids_of_readsLatest hreads)

theorem exists_folded (haggregated : q.isAggregated = true) : ∃ plan, p.folded q = .ok plan ∧
    Exactly ((if ids.isEmpty then d.scale else ids.length) * metrics * (d.daysIn s.span).length)
      plan.statements := by
  have hfirst : d.start.unixNanos ≤ s.span.start := hs.start_eq ▸ hasks.window.start_le
  obtain ⟨buckets, hbuckets, -⟩ := h.exists_groupBuckets hfirst (hasks.width haggregated)
  obtain ⟨statements, hreads⟩ :=
    p.dialect.exists_reads "" q.orderBy s.span (h.label_scan s s.span)
  let intervals := buckets.map (·.effective)
  refine ⟨⟨q.aggregation, q.groupBy, s.fields,
    if p.dialect.isNewestFirst q.orderBy then intervals.reverse else intervals, q.limit,
    statements⟩, ?_, ?_⟩
  · exact (Planner.folded_eq_ok_iff hp).2
      ⟨s, buckets, hs.selection_eq, hbuckets, rfl, rfl, rfl, rfl, rfl, hreads⟩
  · exact h.exactly_scan hasks hs (Dialect.ids_of_reads hreads)

theorem exists_bucketed (haggregated : q.isAggregated = true) :
    ∃ plan, p.bucketed q = .ok plan ∧ Tiles s.span (plan.buckets.map (·.interval)) ∧
      ∀ e ∈ plan.buckets,
        Exactly ((if ids.isEmpty then d.scale else ids.length) * metrics) e.statements := by
  have hwindow := hasks.window
  have hfirst : d.start.unixNanos ≤ s.span.start := hs.start_eq ▸ hwindow.start_le
  have hlast : s.span.stop ≤ d.stop.unixNanos := hs.stop_eq ▸ hwindow.le_stop
  have hwidth := hasks.width haggregated
  obtain ⟨buckets, hbuckets, hcells⟩ := h.exists_groupBuckets hfirst hwidth
  have entries : ∀ b ∈ buckets, ∃ e : BucketStatements, e.interval = b.effective ∧
      p.dialect.Reads q.aggregation q.orderBy b.effective (scan series s b.effective)
        e.statements := by
    intro b _
    obtain ⟨statements, hreads⟩ :=
      p.dialect.exists_reads q.aggregation q.orderBy b.effective (h.label_scan s b.effective)
    exact ⟨⟨b.effective, statements⟩, rfl, hreads⟩
  obtain ⟨parts, hparts⟩ := exists_forall₂ entries
  refine ⟨⟨q.aggregation, parts⟩, ?_, ?_, ?_⟩
  · exact (Planner.bucketed_eq_ok_iff hp).2 ⟨s, buckets, hs.selection_eq, hbuckets, rfl, hparts⟩
  · rw [Planner.intervals_eq hparts]
    exact tiles_of_groupBuckets hbuckets
  · intro e he
    obtain ⟨b, hb, -, hreads⟩ := exists_left_of_mem hparts he
    obtain ⟨k, hk⟩ := hcells b hb
    have hfull := h.exactly_scan hasks hs (Dialect.ids_of_reads hreads)
    rwa [h.length_daysIn_cell hfirst hlast (nanos_of_width hwidth) hk, Nat.mul_one] at hfull

theorem exists_plan : ∃ plan, p.plan q = .ok plan ∧ plan.name = q.planName p.side ∧
    plan.Covers q ((if ids.isEmpty then d.scale else ids.length) * metrics)
      (d.daysIn s.span).length := by
  unfold Planner.plan Query.planName
  by_cases hforEvery : q.hasForEvery = true
  · obtain ⟨spec, hspec⟩ := hasks.forEvery hforEvery
    obtain ⟨plan, hplan, hfull⟩ := h.exists_latest hasks hs hp hspec
    rw [if_pos hforEvery, if_pos hforEvery, hplan]
    exact ⟨.latest plan, rfl, rfl, hfull⟩
  · rw [if_neg hforEvery, if_neg hforEvery]
    by_cases haggregated : q.isAggregated = true
    · have hnot : ¬ (!q.isAggregated) = true := by simp [haggregated]
      rw [if_neg hnot, if_neg hnot]
      cases p.side with
      | server =>
        obtain ⟨plan, hplan, htiles, hfull⟩ := h.exists_bucketed hasks hs hp haggregated
        have hspan := (selection_eq_ok_iff.1 hs.selection_eq).2.2.1
        exact ⟨.bucketed plan, by rw [hplan]; rfl, rfl, ⟨s.span, hspan, htiles⟩, hfull⟩
      | client =>
        obtain ⟨plan, hplan, hfull⟩ := h.exists_folded hasks hs hp haggregated
        exact ⟨.folded plan, by rw [hplan]; rfl, rfl, hfull⟩
    · have hraw : (!q.isAggregated) = true := by simpa using haggregated
      rw [if_pos hraw, if_pos hraw]
      obtain ⟨plan, hplan, hfull⟩ := h.exists_raw hasks hs hp
      exact ⟨.raw plan, by rw [hplan]; rfl, rfl, hfull⟩

end Plans
end Catalogued

/-- Whatever a generator of queries about hosts has drawn, and whichever side aggregates, the query
that it gives is planned with a statement for each of its metrics, hosts and days, or for each of
its metrics and hosts in every bucket, and no series is read twice. -/
theorem QueryGenerator.planned_in_full {d : Dataset} (hstart : d.start.isLeap = false)
    (hstop : d.stop.isLeap = false) (horder : d.start < d.stop) (hscale : 0 < d.scale)
    {query : DevopsQuery} {state : Sampler} {opened : OpenQuery Sampler}
    (hopen : Registry.openQuery Cassandra.backend (.devops query) d = .ok (state, opened))
    {series : List Series}
    (hcatalog : (Fleet.generate d.scale d.seed).catalog d.start d.stop = .ok series)
    (name : String) (id : UInt64) {calls : Nat} {q : Query}
    (hq : .ok q ∈ ((QueryGenerator.mk name opened state id).take calls).1)
    (dialect : Dialect) (side : AggregationSide) :
    ∃ (fields : List String) (days : List Int) (plan : Plan),
      q.fields = .ok fields ∧ fields.length = query.metricCount ∧
      q.hostCount d.scale = query.hostCount d.scale ∧
      days.Nodup ∧ (∀ day, day ∈ days ↔ q.Touches day) ∧
      Planner.plan ⟨Index.ofList series, dialect, side⟩ q = .ok plan ∧
      plan.name = q.planName side ∧
      plan.Covers q (query.hostCount d.scale * query.metricCount) days.length := by
  have h : Catalogued d series := ⟨hstart, hstop, horder, hscale, hcatalog⟩
  obtain ⟨ids, hasks, hhosts⟩ := asks_of_mem_take hstart hstop horder calls
    (asking_of_openQuery hopen name id) hq
  have hbounds := h.bounds
  simp only [nanosPerDay] at hbounds
  obtain ⟨s, hs⟩ := hasks.selects (by omega) (by omega)
  obtain ⟨plan, hplan, hname, hcovers⟩ :=
    h.exists_plan (p := ⟨Index.ofList series, dialect, side⟩) hasks hs rfl
  refine ⟨s.fields, d.daysIn s.span, plan, (selection_eq_ok_iff.1 hs.selection_eq).2.1, ?_, ?_, ?_,
    h.mem_daysIn_iff hasks.window hs.start_eq hs.stop_eq, hplan, hname,
    hhosts ▸ hcovers⟩
  · rw [hs.fields_eq, List.length_take, Nat.min_eq_left hasks.metrics_le]
  · rw [hhosts, Query.hostCount, hasks.tagSets_eq, hostTagSets]
    simp
  · exact (nodup_daysBetween _ _).filter _

def edgeDataset : Dataset where
  start := Timestamp.instant ⟨1451606399000000005, by decide⟩
  stop := Timestamp.instant ⟨1451700000000000000, by decide⟩
  scale := 2
  seed := 7

theorem edgeDataset_planned_in_full : ∃ state opened series q,
    Registry.openQuery Cassandra.backend (.devops (.singleGroupby 5 1 1)) edgeDataset =
      .ok (state, opened) ∧
    (Fleet.generate edgeDataset.scale edgeDataset.seed).catalog edgeDataset.start
      edgeDataset.stop = .ok series ∧
    .ok q ∈ ((QueryGenerator.mk "single-groupby-5-1-1" opened state 0).take 1).1 ∧
    ∃ (fields : List String) (days : List Int) (plan : Plan),
      q.fields = .ok fields ∧ fields.length = 5 ∧ q.hostCount 2 = 1 ∧
      days.Nodup ∧ (∀ day, day ∈ days ↔ q.Touches day) ∧
      Planner.plan ⟨Index.ofList series, {}, .server⟩ q = .ok plan ∧
      plan.name = q.planName .server ∧ plan.Covers q (1 * 5) days.length := by
  have horder : edgeDataset.start < edgeDataset.stop := by decide
  have hle : edgeDataset.start ≤ edgeDataset.stop := by decide
  obtain ⟨series, hseries⟩ :=
    Fleet.exists_catalog edgeDataset.scale edgeDataset.seed hle (by decide)
  obtain ⟨⟨state, opened⟩, hopen⟩ : ∃ p, Registry.openQuery Cassandra.backend
      (.devops (.singleGroupby 5 1 1)) edgeDataset = .ok p := ⟨_, rfl⟩
  have made : ∃ q, .ok q ∈ ((QueryGenerator.mk "single-groupby-5-1-1" opened state 0).take 1).1 := by
    cases hopen
    exact ⟨_, List.mem_singleton.2 rfl⟩
  obtain ⟨q, hq⟩ := made
  exact ⟨state, opened, series, q, hopen, hseries, hq, QueryGenerator.planned_in_full rfl rfl horder
    (by decide) hopen hseries "single-groupby-5-1-1" 0 hq {} .server⟩

end SeriesBench
