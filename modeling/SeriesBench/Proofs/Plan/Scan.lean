import SeriesBench.Plan.Planner
import SeriesBench.Proofs.Series.Lookup
import SeriesBench.Proofs.Time.Grid

set_option autoImplicit false

/-!
# Plans read what a scan of all series finds

The planner goes through an index and through the buckets of the span. A scan takes the fields one by
one and asks of each known series whether it is to be read.
-/
namespace SeriesBench
open SeriesBench.Time

/-- The series that are to be read for rows within the interval, field by field. -/
def scan (series : List Series) (s : Selection) (interval : Interval) : List Series :=
  s.fields.flatMap fun field => series.filter fun x =>
    decide (x.measurement = s.measurement ∧ x.field = field ∧ s.filter.accepts x.tags = true ∧
      x.interval.Meets interval)

section Members
variable {series : List Series} {s : Selection}

theorem reaches_iff {x : Series} {interval : Interval} :
    x.reaches interval = true ↔ x.interval.Meets interval := Interval.overlaps_iff

theorem filter_lookupFields (p : Series → Bool) :
    ((Index.ofList series).lookupFields s.measurement s.fields).filter p =
      s.fields.flatMap fun field => series.filter fun x =>
        decide (x.measurement = s.measurement ∧ x.field = field) && p x := by
  simp only [Index.lookupFields, List.filter_flatMap, Index.lookup_ofList, List.filter_filter,
    Bool.and_comm]

theorem filter_lookupFields_congr {p q : Series → Bool}
    (h : ∀ x, x.measurement = s.measurement → x.field ∈ s.fields → p x = q x) :
    ((Index.ofList series).lookupFields s.measurement s.fields).filter p =
      ((Index.ofList series).lookupFields s.measurement s.fields).filter q := by
  apply List.filter_congr
  intro x hx
  rw [Index.lookupFields, List.mem_flatMap] at hx
  obtain ⟨field, hfield, hx⟩ := hx
  rw [Index.lookup_ofList, List.mem_filter, decide_eq_true_iff] at hx
  obtain ⟨-, hm, rfl⟩ := hx
  exact h x hm hfield

theorem accepts_of_field {x : Series} (hm : x.measurement = s.measurement)
    (hf : x.field ∈ s.fields) : s.accepts x = x.passes s.filter := by
  have hfields : x.hasAnyField s.fields = true :=
    List.any_eq_true.2 ⟨x.field, hf, by simp [Series.hasField]⟩
  simp [Selection.accepts, Series.hasMeasurement, hm, hfields]

theorem scan_eq (interval : Interval) : scan series s interval =
    ((Index.ofList series).lookupFields s.measurement s.fields).filter fun x =>
      x.passes s.filter && x.reaches interval := by
  rw [filter_lookupFields]
  unfold scan
  congr 1
  funext field
  apply List.filter_congr
  intro x _
  rw [Bool.eq_iff_iff]
  simp [Series.passes, reaches_iff, and_assoc]

theorem scan_eq_accepts (interval : Interval) : scan series s interval =
    ((Index.ofList series).lookupFields s.measurement s.fields).filter fun x =>
      s.accepts x && x.reaches interval := by
  rw [scan_eq]
  apply filter_lookupFields_congr
  intro x hm hf
  rw [accepts_of_field hm hf]

theorem scan_of_subset {interval wider : Interval} (h : ∀ t, t ∈ interval → t ∈ wider) :
    scan series s interval = (scan series s wider).filter (·.reaches interval) := by
  rw [scan_eq, scan_eq, List.filter_filter]
  apply List.filter_congr
  intro x _
  have hreach : x.reaches interval = true → x.reaches wider = true := by
    rw [reaches_iff, reaches_iff]
    rintro ⟨t, hx, ht⟩
    exact ⟨t, hx, h t ht⟩
  cases hi : x.reaches interval
  · simp
  · simp [hreach hi]

theorem mem_scan_iff {interval : Interval} {x : Series} : x ∈ scan series s interval ↔
    x ∈ series ∧ x.measurement = s.measurement ∧ x.field ∈ s.fields ∧
      s.filter.accepts x.tags = true ∧ x.interval.Meets interval := by
  simp only [scan, List.mem_flatMap, List.mem_filter, decide_eq_true_iff]
  constructor
  · rintro ⟨field, hfield, hx, hm, rfl, hpasses, hmeets⟩
    exact ⟨hx, hm, hfield, hpasses, hmeets⟩
  · rintro ⟨hx, hm, hfield, hpasses, hmeets⟩
    exact ⟨x.field, hfield, hx, hm, rfl, hpasses, hmeets⟩

theorem mem_of_mem_scan {interval : Interval} {x : Series} (h : x ∈ scan series s interval) :
    x ∈ series := (mem_scan_iff.1 h).1

end Members

theorem dealOne_eq (hands : List (Bucket × Array Series)) (x : Series) :
    dealOne hands x = hands.map fun h =>
      (h.1, h.2 ++ ([x].filter (·.reaches h.1.effective)).toArray) := by
  apply List.map_congr_left
  rintro ⟨b, members⟩ -
  by_cases h : x.reaches b.effective <;> simp [h]

theorem deal_eq (hands : List (Bucket × Array Series)) (members : List Series) :
    deal hands members = hands.map fun h =>
      (h.1, h.2 ++ (members.filter (·.reaches h.1.effective)).toArray) := by
  unfold deal
  induction members generalizing hands with
  | nil => simp
  | cons x rest ih =>
    rw [List.foldl_cons, ih, dealOne_eq, List.map_map]
    apply List.map_congr_left
    intro h _
    have cons : x :: rest = [x] ++ rest := rfl
    rw [Function.comp_apply, cons, List.filter_append, ← List.append_toArray,
      Array.append_assoc]

section Groups
variable {span : Interval} {width : Duration} {buckets : List Bucket}

/-- The intervals that a width groups a span into: one for each cell that meets the span, in
ascending order, or the span alone if there is no width. -/
def Groups (span : Interval) (width : Duration) (groups : List Interval) : Prop :=
  if width.isZero then groups = [span]
  else if span.start = span.stop then groups = []
  else List.Forall₂ (fun (k : Int) (g : Interval) => g.start = max (k * width.nanos) span.start ∧
    g.stop = min ((k + 1) * width.nanos) span.stop ∧ g.start < g.stop)
    (cellsOf span width.nanos) groups

theorem groupBuckets_cases (h : groupBuckets span width = .ok buckets) :
    (width.isZero = true ∧ buckets = [⟨span, span⟩]) ∨
    (width.isZero = false ∧ ∃ b, Buckets.over? span width = some b ∧ buckets = b.toList) := by
  unfold groupBuckets at h
  by_cases hw : width.isZero = true
  · rw [if_pos hw] at h
    exact .inl ⟨hw, (Except.ok.inj h).symm⟩
  · rw [if_neg hw] at h
    refine .inr ⟨Bool.eq_false_iff.2 hw, ?_⟩
    cases hb : Buckets.over? span width with
    | none => simp [hb] at h
    | some b =>
      rw [hb] at h
      exact ⟨b, rfl, (Except.ok.inj h).symm⟩

theorem groups_of_groupBuckets (h : groupBuckets span width = .ok buckets) :
    Groups span width (buckets.map (·.effective)) := by
  unfold Groups
  rcases groupBuckets_cases h with ⟨hw, rfl⟩ | ⟨hw, b, hb, rfl⟩
  · rw [if_pos hw]
    rfl
  · rw [if_neg (by simp [hw])]
    by_cases hspan : span.start = span.stop
    · rw [if_pos hspan, Buckets.toList, (Buckets.take_of_over?_empty hb hspan _).1]
      rfl
    · have order := span.start_le_stop
      rw [if_neg hspan, List.forall₂_map_right_iff]
      refine (Buckets.toList_of_over? hb (by omega)).imp ?_
      intro k c hc
      have hstop := hc.effective_stop
      have hmax := span.stop_le_max
      rw [hc.raw_stop] at hstop
      refine ⟨?_, by omega, hc.effective_nonempty⟩
      rw [hc.effective_start, hc.raw_start]

theorem tiles_of_groupBuckets (h : groupBuckets span width = .ok buckets) :
    Tiles span (buckets.map (·.effective)) := by
  rcases groupBuckets_cases h with ⟨-, rfl⟩ | ⟨-, b, hb, rfl⟩
  · exact ⟨by simp, by simp⟩
  · by_cases hspan : span.start = span.stop
    · rw [Buckets.toList, (Buckets.take_of_over?_empty hb hspan _).1]
      refine ⟨fun t => ?_, by simp⟩
      simp only [Interval.mem_iff, List.map_nil, List.not_mem_nil, false_and, exists_false,
        iff_false]
      omega
    · have order := span.start_le_stop
      have hwidth := (Buckets.over?_eq_some hb).2.1
      exact tiles_of_cells (hwidth ▸ b.width_pos) (Buckets.toList_of_over? hb (by omega))

end Groups

theorem selection_eq_ok_iff {q : Query} {s : Selection} : q.selection = .ok s ↔
    q.measurement = .ok s.measurement ∧ q.fields = .ok s.fields ∧ q.span = .ok s.span ∧
      q.tagFilter = .ok s.filter := by
  simp only [Query.selection, bind_eq_ok_iff, pure, Except.pure, Except.ok.injEq]
  constructor
  · rintro ⟨m, hm, fields, hf, span, hs, filter, ht, rfl⟩
    exact ⟨hm, hf, hs, ht⟩
  · rintro ⟨hm, hf, hs, ht⟩
    exact ⟨_, hm, _, hf, _, hs, _, ht, rfl⟩

namespace Dialect
variable {d : Dialect} {aggregation table id orderBy : String} {bounds : Interval}

theorem select_eq_ok_iff {statement : Statement} :
    d.select aggregation table id orderBy bounds = .ok statement ↔
      fieldLabel id = .ok statement.field ∧
      statement.template = d.template aggregation table orderBy ∧
      statement.seriesId = id ∧ statement.bounds = bounds := by
  simp only [select, bind_eq_ok_iff, pure, Except.pure, Except.ok.injEq]
  constructor
  · rintro ⟨field, hf, rfl⟩
    exact ⟨hf, rfl, rfl, rfl⟩
  · rintro ⟨hf, ht, hi, hb⟩
    exact ⟨statement.field, hf, by rw [← ht, ← hi, ← hb]⟩

theorem exists_select (d : Dialect) (aggregation table orderBy : String) (bounds : Interval)
    {label : String} (h : fieldLabel id = .ok label) :
    ∃ statement, d.select aggregation table id orderBy bounds = .ok statement :=
  ⟨⟨d.template aggregation table orderBy, id, bounds, label⟩,
    select_eq_ok_iff.2 ⟨h, rfl, rfl, rfl⟩⟩

def Reads (d : Dialect) (aggregation orderBy : String) (bounds : Interval) :
    List Series → List Statement → Prop :=
  List.Forall₂ fun x statement =>
    d.select aggregation x.table x.id orderBy bounds = .ok statement

def ReadsLatest (d : Dialect) (bounds : Interval) : List Series → List Statement → Prop :=
  List.Forall₂ fun x statement => d.selectLatest x.table x.id bounds = .ok statement

section Ids
variable {xs : List Series} {statements : List Statement}

theorem exists_reads (d : Dialect) (aggregation orderBy : String) (bounds : Interval)
    (hlabel : ∀ x ∈ xs, fieldLabel x.id = .ok x.field) :
    ∃ statements, d.Reads aggregation orderBy bounds xs statements :=
  exists_forall₂ fun x hx => d.exists_select aggregation x.table orderBy bounds (hlabel x hx)

theorem exists_readsLatest (d : Dialect) (bounds : Interval)
    (hlabel : ∀ x ∈ xs, fieldLabel x.id = .ok x.field) :
    ∃ statements, d.ReadsLatest bounds xs statements := by
  apply exists_forall₂
  intro x hx
  obtain ⟨statement, h⟩ := d.exists_select "" x.table d.newestFirst bounds (hlabel x hx)
  exact ⟨_, bind_eq_ok_iff.2 ⟨statement, h, rfl⟩⟩

theorem ids_of_reads (h : d.Reads aggregation orderBy bounds xs statements) :
    statements.map (·.seriesId) = xs.map (·.id) := by
  induction h with
  | nil => rfl
  | cons hx _ ih => rw [List.map_cons, List.map_cons, ih, (select_eq_ok_iff.1 hx).2.2.1]

theorem ids_of_readsLatest (h : d.ReadsLatest bounds xs statements) :
    statements.map (·.seriesId) = xs.map (·.id) := by
  induction h with
  | nil => rfl
  | cons hx _ ih =>
    obtain ⟨statement, hselect, hlatest⟩ := bind_eq_ok_iff.1 hx
    cases hlatest
    rw [List.map_cons, List.map_cons, ih, (select_eq_ok_iff.1 hselect).2.2.1]

end Ids

end Dialect

namespace Planner
variable {p : Planner} {series : List Series} {q : Query}

theorem bucketed_eq (hp : p.index = Index.ofList series) : p.bucketed q = (do
    let s ← q.selection
    let buckets ← groupBuckets s.span q.groupBy
    let parts ← buckets.mapM fun b => do
      let statements ← (scan series s b.effective).mapM fun x =>
        p.dialect.select q.aggregation x.table x.id q.orderBy b.effective
      return ⟨b.effective, statements⟩
    return ⟨q.aggregation, parts⟩) := by
  have members (s : Selection) (b : Bucket) :
      (((Index.ofList series).lookupFields s.measurement s.fields).filter s.accepts).filter
        (·.reaches b.effective) = scan series s b.effective := by
    rw [scan_eq_accepts, List.filter_filter]
    simp only [Bool.and_comm]
  simp only [bucketed, hp, deal_eq, List.map_map, List.mapM_map, Function.comp_def,
    Array.empty_append, members]

theorem bucketed_eq_ok_iff (hp : p.index = Index.ofList series) {plan : BucketedPlan} :
    p.bucketed q = .ok plan ↔ ∃ s buckets, q.selection = .ok s ∧
      groupBuckets s.span q.groupBy = .ok buckets ∧ plan.aggregation = q.aggregation ∧
      List.Forall₂ (fun b e => e.interval = b.effective ∧
        p.dialect.Reads q.aggregation q.orderBy b.effective (scan series s b.effective)
          e.statements) buckets plan.buckets := by
  have entry (s : Selection) (b : Bucket) (e : BucketStatements) :
      (∃ statements, List.Forall₂ (fun x y =>
          p.dialect.select q.aggregation x.table x.id q.orderBy b.effective = .ok y)
          (scan series s b.effective) statements ∧ ⟨b.effective, statements⟩ = e) ↔
        e.interval = b.effective ∧ p.dialect.Reads q.aggregation q.orderBy b.effective
          (scan series s b.effective) e.statements := by
    constructor
    · rintro ⟨statements, h, rfl⟩
      exact ⟨rfl, h⟩
    · rintro ⟨hi, h⟩
      exact ⟨e.statements, h, by rw [← hi]⟩
  simp only [bucketed_eq hp, bind_eq_ok_iff, mapM_eq_ok_iff, pure, Except.pure, Except.ok.injEq,
    entry]
  constructor
  · rintro ⟨s, hs, buckets, hb, parts, h, rfl⟩
    exact ⟨s, buckets, hs, hb, rfl, h⟩
  · rintro ⟨s, buckets, hs, hb, ha, h⟩
    exact ⟨s, hs, buckets, hb, plan.buckets, h, by rw [← ha]⟩

theorem intervals_eq {R : Bucket → BucketStatements → Prop} {buckets : List Bucket}
    {entries : List BucketStatements}
    (h : List.Forall₂ (fun b e => e.interval = b.effective ∧ R b e) buckets entries) :
    entries.map (·.interval) = buckets.map (·.effective) := by
  induction h with
  | nil => rfl
  | cons hbe _ ih => rw [List.map_cons, List.map_cons, hbe.1, ih]

def reached (p : Planner) (s : Selection) : List Series :=
  (p.index.lookupFields s.measurement s.fields).filter fun x => s.accepts x && x.reaches s.span

theorem folded_ok_iff {plan : FoldedPlan} : p.folded q = .ok plan ↔ ∃ s buckets,
    q.selection = .ok s ∧ groupBuckets s.span q.groupBy = .ok buckets ∧
      plan.aggregation = q.aggregation ∧ plan.groupBy = q.groupBy ∧ plan.fields = s.fields ∧
      plan.limit = q.limit ∧
      plan.buckets = (if p.dialect.isNewestFirst q.orderBy then
        (buckets.map (·.effective)).reverse else buckets.map (·.effective)) ∧
      p.dialect.Reads "" q.orderBy s.span (p.reached s) plan.statements := by
  simp only [folded, bind_eq_ok_iff, mapM_eq_ok_iff, pure, Except.pure, Except.ok.injEq]
  constructor
  · rintro ⟨s, hs, buckets, hb, statements, h, rfl⟩
    exact ⟨s, buckets, hs, hb, rfl, rfl, rfl, rfl, rfl, h⟩
  · rintro ⟨s, buckets, hs, hb, ha, hg, hf, hl, hbs, h⟩
    refine ⟨s, hs, buckets, hb, plan.statements, h, ?_⟩
    rw [← ha, ← hg, ← hf, ← hl, ← hbs]

theorem folded_eq_ok_iff (hp : p.index = Index.ofList series) {plan : FoldedPlan} :
    p.folded q = .ok plan ↔ ∃ s buckets, q.selection = .ok s ∧
      groupBuckets s.span q.groupBy = .ok buckets ∧ plan.aggregation = q.aggregation ∧
      plan.groupBy = q.groupBy ∧ plan.fields = s.fields ∧ plan.limit = q.limit ∧
      plan.buckets = (if p.dialect.isNewestFirst q.orderBy then
        (buckets.map (·.effective)).reverse else buckets.map (·.effective)) ∧
      p.dialect.Reads "" q.orderBy s.span (scan series s s.span) plan.statements := by
  simp only [folded_ok_iff, reached, hp, ← scan_eq_accepts]

theorem raw_eq_ok_iff (hp : p.index = Index.ofList series) {plan : RawPlan} :
    p.raw q = .ok plan ↔ ∃ s, q.selection = .ok s ∧ plan.fields = s.fields ∧
      plan.whereClause = q.whereClause ∧
      p.dialect.Reads "" q.orderBy s.span (scan series s s.span) plan.statements := by
  simp only [raw, candidates, bind_eq_ok_iff, mapM_eq_ok_iff, hp, ← scan_eq, pure, Except.pure,
    Except.ok.injEq]
  constructor
  · rintro ⟨s, hs, statements, h, rfl⟩
    exact ⟨s, hs, rfl, rfl, h⟩
  · rintro ⟨s, hs, hf, hw, h⟩
    refine ⟨s, hs, plan.statements, h, ?_⟩
    rw [← hf, ← hw]

theorem latest_eq_ok_iff (hp : p.index = Index.ofList series) {plan : LatestPlan} :
    p.latest q = .ok plan ↔ ∃ s, q.forEvery = .ok plan.forEvery ∧ q.selection = .ok s ∧
      plan.fields = s.fields ∧
      p.dialect.ReadsLatest s.span (scan series s s.span) plan.statements := by
  simp only [latest, candidates, bind_eq_ok_iff, mapM_eq_ok_iff, hp, ← scan_eq, pure, Except.pure,
    Except.ok.injEq]
  constructor
  · rintro ⟨forEvery, he, s, hs, statements, h, rfl⟩
    exact ⟨s, he, hs, rfl, h⟩
  · rintro ⟨s, he, hs, hf, h⟩
    refine ⟨_, he, s, hs, plan.statements, h, ?_⟩
    rw [← hf]

/-- A plan that leaves the aggregation to the store has an entry for each group of the span, and an
entry reads what the scan finds for its interval. -/
theorem bucketed_eq_scan (hp : p.index = Index.ofList series) {plan : BucketedPlan}
    (h : p.bucketed q = .ok plan) : ∃ s : Selection,
      q.measurement = .ok s.measurement ∧ q.fields = .ok s.fields ∧ q.span = .ok s.span ∧
      q.tagFilter = .ok s.filter ∧ plan.aggregation = q.aggregation ∧
      Groups s.span q.groupBy (plan.buckets.map (·.interval)) ∧
      ∀ e ∈ plan.buckets, p.dialect.Reads q.aggregation q.orderBy e.interval
        (scan series s e.interval) e.statements := by
  obtain ⟨s, buckets, hs, hb, ha, hentries⟩ := (bucketed_eq_ok_iff hp).1 h
  obtain ⟨hm, hf, hspan, ht⟩ := selection_eq_ok_iff.1 hs
  refine ⟨s, hm, hf, hspan, ht, ha, ?_, ?_⟩
  · rw [intervals_eq hentries]
    exact groups_of_groupBuckets hb
  · intro e he
    obtain ⟨b, -, hi, hreads⟩ := exists_left_of_mem hentries he
    rw [hi]
    exact hreads

end Planner

/-- Two series that hand over between the edges of two buckets, and one that is not asked for. -/
def edgeSeries : List Series :=
  [⟨"t", "cpu,host=a#user#1970-01-01", "cpu", "user", StringMap.ofList [("host", "a")],
      0, 45000000000, by decide, by decide, by decide⟩,
    ⟨"t", "cpu,host=a#idle#1970-01-01", "cpu", "idle", StringMap.ofList [("host", "a")],
      0, 45000000000, by decide, by decide, by decide⟩,
    ⟨"t", "cpu,host=a#user#1970-01-02", "cpu", "user", StringMap.ofList [("host", "a")],
      45000000000, 90000000000, by decide, by decide, by decide⟩]

def edgePlanner : Planner := { index := Index.ofList edgeSeries }

def edgeQuery : Query where
  measurementName := "cpu"
  fieldNames := "user,user"
  aggregation := "max"
  timeStart := Timestamp.instant ⟨30000000005, by decide⟩
  timeEnd := Timestamp.instant ⟨100000000000, by decide⟩
  groupBy := .ofSeconds 60
  tagSets := [["host=a"]]

theorem edgeQuery_eq_scan : ∃ plan, edgePlanner.bucketed edgeQuery = .ok plan ∧
    ∃ s : Selection, edgeQuery.measurement = .ok s.measurement ∧
      edgeQuery.fields = .ok s.fields ∧ edgeQuery.span = .ok s.span ∧
      edgeQuery.tagFilter = .ok s.filter ∧ plan.aggregation = edgeQuery.aggregation ∧
      Groups s.span edgeQuery.groupBy (plan.buckets.map (·.interval)) ∧
      ∀ e ∈ plan.buckets, edgePlanner.dialect.Reads edgeQuery.aggregation edgeQuery.orderBy
        e.interval (scan edgeSeries s e.interval) e.statements :=
  ⟨_, rfl, Planner.bucketed_eq_scan rfl rfl⟩

end SeriesBench
