import SeriesBench.Proofs.Plan.Run
import SeriesBench.Proofs.Plan.Shapes
import SeriesBench.Proofs.Series.IdText

set_option autoImplicit false

namespace SeriesBench
open SeriesBench.Time SeriesBench.Text

def Series.FromId (x : Series) : Prop := ∃ table id, Series.ofId table id = .ok x

theorem Series.FromId.segments {x : Series} (h : x.FromId) :
    (∃ key day, split '#' x.id.toList = [key, x.field.toList, day]) ∧
      fieldLabel x.id = .ok x.field := by
  obtain ⟨table, id, hread⟩ := h
  obtain ⟨key, field, day, date, hsplit, -, -, rfl, hfield⟩ := Series.ofId_eq_ok hread
  constructor
  · refine ⟨key, day, ?_⟩
    rw [hfield, String.toList_ofList, hsplit]
  · rw [fieldLabel, hsplit, hfield]
    rfl

theorem Series.FromId.field_eq {x y : Series} (hx : x.FromId) (hy : y.FromId) (h : x.id = y.id) :
    x.field = y.field := by
  have same := hx.segments.2
  rw [h, hy.segments.2] at same
  exact (Except.ok.inj same).symm

/-- A plan that one of the planner's four ways to plan gives. -/
inductive Planner.Makes (p : Planner) (q : Query) : Plan → Prop where
  | bucketed {plan : BucketedPlan} (h : p.bucketed q = .ok plan) : Makes p q (.bucketed plan)
  | folded {plan : FoldedPlan} (h : p.folded q = .ok plan) : Makes p q (.folded plan)
  | raw {plan : RawPlan} (h : p.raw q = .ok plan) : Makes p q (.raw plan)
  | latest {plan : LatestPlan} (h : p.latest q = .ok plan) : Makes p q (.latest plan)

def Statement.For (st : Statement) (series : List Series) (fields : List String) : Prop :=
  ∃ x ∈ series, x.field ∈ fields ∧ st.seriesId = x.id ∧ fieldLabel x.id = .ok st.field

section Plan
variable {p : Planner} {series : List Series} {q : Query} {s : Selection} {interval bounds : Interval}
  {statements : List Statement} {d : Dialect}

theorem for_of_scan {R : Series → Statement → Prop}
    (h : List.Forall₂ R (scan series s interval) statements)
    (hR : ∀ x st, R x st → fieldLabel x.id = .ok st.field ∧ st.seriesId = x.id) :
    ∀ st ∈ statements, st.For series s.fields := by
  intro st hst
  obtain ⟨x, hx, hread⟩ := exists_left_of_mem h hst
  obtain ⟨hmem, -, hfield, -⟩ := mem_scan_iff.1 hx
  obtain ⟨hlabel, hid⟩ := hR x st hread
  exact ⟨x, hmem, hfield, hid, hlabel⟩

theorem Dialect.Reads.for_scan {aggregation orderBy : String}
    (h : d.Reads aggregation orderBy bounds (scan series s interval) statements) :
    ∀ st ∈ statements, st.For series s.fields := by
  apply for_of_scan h
  intro x st hselect
  obtain ⟨hlabel, -, hid, -⟩ := select_eq_ok_iff.1 hselect
  exact ⟨hlabel, hid⟩

theorem Dialect.ReadsLatest.for_scan (h : d.ReadsLatest bounds (scan series s interval) statements) :
    ∀ st ∈ statements, st.For series s.fields := by
  apply for_of_scan h
  intro x st hselect
  obtain ⟨hlabel, -, hid, -⟩ := selectLatest_eq_ok_iff.1 hselect
  exact ⟨hlabel, hid⟩

theorem Planner.Makes.statements_for (hp : p.index = Index.ofList series) {plan : Plan}
    (h : p.Makes q plan) :
    ∃ s, q.selection = .ok s ∧ ∀ st ∈ plan.statements, st.For series s.fields := by
  cases h with
  | bucketed h =>
    obtain ⟨s, buckets, hs, -, -, hentries⟩ := (bucketed_eq_ok_iff hp).1 h
    refine ⟨s, hs, ?_⟩
    intro st hst
    obtain ⟨e, he, hst⟩ := List.mem_flatMap.1 hst
    obtain ⟨b, -, -, hreads⟩ := exists_left_of_mem hentries he
    exact hreads.for_scan st hst
  | folded h =>
    obtain ⟨s, buckets, hs, -, -, -, -, -, -, hreads⟩ := (folded_eq_ok_iff hp).1 h
    exact ⟨s, hs, hreads.for_scan⟩
  | raw h =>
    obtain ⟨s, hs, -, -, hreads⟩ := (raw_eq_ok_iff hp).1 h
    exact ⟨s, hs, hreads.for_scan⟩
  | latest h =>
    obtain ⟨s, -, hs, -, hreads⟩ := (latest_eq_ok_iff hp).1 h
    exact ⟨s, hs, hreads.for_scan⟩

end Plan

section Cells
variable {plan : FoldedPlan} {first : Accumulator} {rows : List Row}

theorem mem_fields_of_rowsIn {fields : List String} (hrows : ∀ r ∈ rows, r.field ∈ fields)
    {interval : Interval} {field : String} (h : rowsIn interval field rows ≠ []) :
    field ∈ fields := by
  obtain ⟨r, hr⟩ := List.exists_mem_of_ne_nil _ h
  obtain ⟨hmem, hin⟩ := List.mem_filter.1 hr
  have hfield : r.field = field := by
    simp only [Bool.and_eq_true, beq_iff_eq] at hin
    tauto
  rw [← hfield]
  exact hrows r hmem

theorem keys_of_feed {span : Interval} (htiles : Tiles span plan.buckets)
    (hfirst : Accumulator.ofPlan plan = .ok first) (hrows : ∀ r ∈ rows, r.field ∈ plan.fields) :
    (∀ b ∈ (first.feed rows).2.buckets, ∀ f, f ∈ b.2.keys ↔ f ∈ plan.fields) ∧
      ∀ r ∈ (first.feed rows).2.results, ∀ f, f ∈ r.values.keys ↔ f ∈ plan.fields := by
  obtain ⟨aggregator, hlabel, -⟩ := bind_eq_ok_iff.1 hfirst
  have ran := FoldedPlan.ran_of_tiles hlabel htiles rows
  obtain rfl := Except.ok.inj (hfirst.symm.trans ran.started)
  rw [ran.fed]
  have known (i : Interval) (f : String) :
      (f ∈ plan.fields ∨ rowsIn i f rows ≠ []) ↔ f ∈ plan.fields :=
    or_iff_left_of_imp (mem_fields_of_rowsIn hrows)
  constructor
  · intro b hb f
    rw [StringMap.mem_keys_iff, ran.cells b hb]
    simp only [known]
    split <;> simp_all
  · intro r hr f
    rw [StringMap.mem_keys_iff, ran.values r hr]
    simp only [known]
    split <;> simp_all

end Cells

/-- If all series have been read from their ids, each statement of a plan is labelled with the field
of the series that it reads, the segment in the middle of the id, and the query asks for that field.
So rows that are folded under the labels of a plan's statements get into no column that was not
asked for: the results have a column for each of the query's fields and no other. -/
theorem Planner.results_belong_to_fields {p : Planner} {series : List Series} {q : Query} {plan : Plan}
    (hp : p.index = Index.ofList series) (hids : ∀ x ∈ series, x.FromId) (hplan : p.Makes q plan) :
    ∃ fields, q.fields = .ok fields ∧
      (∀ st ∈ plan.statements, st.field ∈ fields ∧
        (∃ key day, split '#' st.seriesId.toList = [key, st.field.toList, day]) ∧
        (∃ x ∈ series, x.id = st.seriesId) ∧
        ∀ x ∈ series, x.id = st.seriesId → x.field = st.field) ∧
      ∀ folded first, plan = .folded folded → Accumulator.ofPlan folded = .ok first →
        ∀ rows : List Row, (∀ r ∈ rows, ∃ st ∈ folded.statements, r.field = st.field) →
          (∀ b ∈ (first.feed rows).2.buckets, ∀ f, f ∈ b.2.keys ↔ f ∈ fields) ∧
          ∀ r ∈ (first.feed rows).2.results, ∀ f, f ∈ r.values.keys ↔ f ∈ fields := by
  obtain ⟨s, hs, hstatements⟩ := hplan.statements_for hp
  have labelled : ∀ st ∈ plan.statements, ∃ x ∈ series, x.field = st.field ∧ x.field ∈ s.fields ∧
      st.seriesId = x.id := by
    intro st hst
    obtain ⟨x, hx, hfield, hid, hlabel⟩ := hstatements st hst
    have same := (hids x hx).segments.2
    rw [hlabel] at same
    exact ⟨x, hx, (Except.ok.inj same).symm, hfield, hid⟩
  refine ⟨s.fields, (selection_eq_ok_iff.1 hs).2.1, ?_, ?_⟩
  · intro st hst
    obtain ⟨x, hx, hsame, hfield, hid⟩ := labelled st hst
    refine ⟨hsame ▸ hfield, ?_, ⟨x, hx, hid.symm⟩, ?_⟩
    · rw [hid, ← hsame]
      exact (hids x hx).segments.1
    · intro y hy hyid
      rw [← hsame]
      exact (hids y hy).field_eq (hids x hx) (hyid.trans hid)
  · rintro folded first rfl hfirst rows hrows
    cases hplan with
    | folded hfolded =>
      obtain ⟨s', -, hs', -, -, -, hfields, -⟩ := (folded_eq_ok_iff hp).1 hfolded
      obtain rfl := Except.ok.inj (hs.symm.trans hs')
      obtain ⟨span, -, htiles⟩ := tiles_of_folded hfolded
      rw [← hfields]
      apply keys_of_feed htiles hfirst
      intro r hr
      obtain ⟨st, hst, hlabel⟩ := hrows r hr
      obtain ⟨x, -, hsame, hfield, -⟩ := labelled st hst
      rw [hlabel, ← hsame, hfields]
      exact hfield

/-- Tags with an empty key, an empty value or a second equals sign, and a field that ends in one. -/
def oddIds : List String :=
  ["cpu,host=a=b,rack=#user=#1970-01-01", "cpu,==#user=#1970-01-01", "cpu#idle#1970-01-01"]

def oddQuery : Query where
  measurementName := "cpu"
  fieldNames := "user=,steal"
  aggregation := "max"
  timeStart := Timestamp.instant ⟨0, by decide⟩
  timeEnd := Timestamp.instant ⟨90000000000, by decide⟩
  groupBy := .ofSeconds 60

theorem oddQuery_results : ∃ series folded first, oddIds.mapM (Series.ofId "t") = .ok series ∧
    (Planner.mk (Index.ofList series) {} .client).folded oddQuery = .ok folded ∧
    folded.statements.map (·.field) = ["user=", "user="] ∧
    Accumulator.ofPlan folded = .ok first ∧
    ∀ rows : List Row, (∀ r ∈ rows, r.field = "user=") →
      (first.feed rows).2.results.length = 2 ∧
      ∀ r ∈ (first.feed rows).2.results, ∀ f, f ∈ r.values.keys ↔ f ∈ ["user=", "steal"] := by
  obtain ⟨series, hseries⟩ : ∃ series, oddIds.mapM (Series.ofId "t") = .ok series := ⟨_, rfl⟩
  have hids : ∀ x ∈ series, x.FromId := by
    intro x hx
    obtain ⟨id, -, hid⟩ := exists_left_of_mem (mapM_eq_ok_iff.1 hseries) hx
    exact ⟨"t", id, hid⟩
  obtain ⟨folded, hfolded, hlabels, hmax, hlimit, hcount⟩ : ∃ folded,
      (Planner.mk (Index.ofList series) {} .client).folded oddQuery = .ok folded ∧
        folded.statements.map (·.field) = ["user=", "user="] ∧
        Aggregator.read folded.aggregation = .ok .max ∧ folded.limit = none ∧
        folded.buckets.length = 2 := by
    obtain rfl := Except.ok.inj hseries
    exact ⟨_, rfl, rfl, rfl, rfl, rfl⟩
  obtain ⟨span, -, htiles⟩ := Planner.tiles_of_folded hfolded
  obtain ⟨first, hfirst, hintervals⟩ := FoldedPlan.exists_results hmax htiles
  obtain ⟨fields, hfields, -, hresults⟩ :=
    Planner.results_belong_to_fields rfl hids (.folded hfolded)
  obtain rfl : ["user=", "steal"] = fields := Except.ok.inj hfields
  refine ⟨series, folded, first, hseries, hfolded, hlabels, hfirst, ?_⟩
  intro rows hrows
  refine ⟨?_, (hresults folded first rfl hfirst rows ?_).2⟩
  · have buckets := congrArg List.length (hintervals rows)
    rw [hlimit, truncated, hcount, List.length_map] at buckets
    exact buckets
  · intro r hr
    have labelled : "user=" ∈ folded.statements.map (·.field) := by simp [hlabels]
    obtain ⟨st, hst, hlabel⟩ := List.mem_map.1 labelled
    exact ⟨st, hst, (hrows r hr).trans hlabel.symm⟩

end SeriesBench
