import SeriesBench.Plan.Accumulator
import SeriesBench.Proofs.Plan.Scan
import SeriesBench.Proofs.StringMap

set_option autoImplicit false

/-!
# Where the rows go

A reader that aggregates for itself folds each row into the cell of its field in the one bucket that
holds its timestamp. The rows of a cell are those that the statements of the same bucket read if the
store aggregates.
-/
namespace SeriesBench
open SeriesBench.Time

def rowsIn (interval : Interval) (field : String) (rows : List Row) : List Row :=
  rows.filter fun r => r.field == field && interval.contains r.timestamp

/-- The cell that the rows leave if they are all there is. -/
def cellOf (rows : List Row) : Cell := rows.foldl (fun c r => c.add r.value) Cell.empty

namespace Accumulator

def addToCells (cells : StringMap Cell) (row : Row) : StringMap Cell :=
  cells.upsert row.field fun c => (c.getD Cell.empty).add row.value

theorem get?_foldl_addToCells (rows : List Row) (cells : StringMap Cell) (field : String) :
    (rows.foldl addToCells cells).get? field =
      if rows.filter (·.field == field) = [] then cells.get? field
      else some ((rows.filter (·.field == field)).foldl (fun c r => c.add r.value)
        ((cells.get? field).getD Cell.empty)) := by
  induction rows generalizing cells with
  | nil => rfl
  | cons row rest ih =>
    rw [List.foldl_cons, ih, addToCells, StringMap.get?_upsert]
    by_cases h : row.field = field
    · subst h
      cases hrest : rest.filter (·.field == row.field) with
      | nil => simp [hrest]
      | cons r rs => simp [hrest]
    · simp [h]

theorem getD_foldl_addToCells (rows : List Row) (cells : StringMap Cell) (field : String) :
    ((rows.foldl addToCells cells).get? field).getD Cell.empty =
      (rows.filter (·.field == field)).foldl (fun c r => c.add r.value)
        ((cells.get? field).getD Cell.empty) := by
  rw [get?_foldl_addToCells]
  split
  · rename_i h
    rw [h]
    rfl
  · rfl

theorem addToFirst_eq_map {row : Row} {buckets : List (Interval × StringMap Cell)}
    (hapart : (buckets.map (·.1)).Pairwise Interval.Apart)
    (h : ∃ i ∈ buckets.map (·.1), row.timestamp ∈ i) :
    addToFirst row buckets = some (buckets.map fun b =>
      if b.1.contains row.timestamp then (b.1, addToCells b.2 row) else b) := by
  induction buckets with
  | nil =>
    obtain ⟨i, hi, -⟩ := h
    exact absurd hi (by simp)
  | cons b rest ih =>
    obtain ⟨interval, cells⟩ := b
    rw [List.map_cons, List.pairwise_cons] at hapart
    by_cases hb : interval.contains row.timestamp = true
    · have others : (rest.map fun b => if b.1.contains row.timestamp
          then (b.1, addToCells b.2 row) else b) = rest := by
        refine (List.map_congr_left ?_).trans (List.map_id rest)
        intro c hc
        have hnot := (hapart.1 c.1 (List.mem_map_of_mem hc)).not_mem (Interval.contains_iff.1 hb)
        rw [← Interval.contains_iff] at hnot
        rw [if_neg hnot, id]
      rw [addToFirst, if_pos hb, List.map_cons, others, if_pos hb]
      rfl
    · have hrest : ∃ i ∈ rest.map (·.1), row.timestamp ∈ i := by
        obtain ⟨i, hi, ht⟩ := h
        rcases List.mem_cons.1 hi with rfl | hi
        · exact absurd (Interval.contains_iff.2 ht) hb
        · exact ⟨i, hi, ht⟩
      rw [addToFirst, if_neg hb, ih hapart.2 hrest, List.map_cons, if_neg hb]
      rfl

theorem addToFirst_eq_none {row : Row} {buckets : List (Interval × StringMap Cell)}
    (h : ∀ i ∈ buckets.map (·.1), row.timestamp ∉ i) : addToFirst row buckets = none := by
  induction buckets with
  | nil => rfl
  | cons b rest ih =>
    rw [List.map_cons, List.forall_mem_cons] at h
    rw [addToFirst, if_neg (fun hb => h.1 (Interval.contains_iff.1 hb)), ih h.2, Option.map_none]

/-- The accumulator after each bucket has been given the rows within it, in their order. -/
def give (a : Accumulator) (rows : List Row) : Accumulator :=
  { a with buckets := a.buckets.map fun b =>
      (b.1, (rows.filter fun r => b.1.contains r.timestamp).foldl addToCells b.2) }

section Give
variable {a : Accumulator} {span : Interval}

theorem intervals_give (rows : List Row) :
    (a.give rows).buckets.map (·.1) = a.buckets.map (·.1) := by
  rw [give, List.map_map]
  rfl

theorem give_nil : a.give [] = a := by simp [give]

theorem give_cons (row : Row) (rest : List Row) :
    a.give (row :: rest) = (a.give [row]).give rest := by
  simp only [give, List.map_map]
  congr 1
  apply List.map_congr_left
  intro b _
  by_cases hb : b.1.contains row.timestamp = true <;> simp [hb]

/-- A row is taken just when it is within what the buckets cover, and given to one of them then. -/
theorem add?_eq (h : Tiles span (a.buckets.map (·.1))) (row : Row) :
    a.add? row = if span.contains row.timestamp then some (a.give [row]) else none := by
  by_cases hrow : row.timestamp ∈ span
  · rw [if_pos (Interval.contains_iff.2 hrow), add?,
      addToFirst_eq_map h.apart ((h.mem_iff row.timestamp).1 hrow), Option.map_some, give]
    congr 2
    apply List.map_congr_left
    intro b _
    by_cases hb : b.1.contains row.timestamp = true <;> simp [hb]
  · have outside : ∀ i ∈ a.buckets.map (·.1), row.timestamp ∉ i :=
      fun i hi ht => hrow (h.mem_of_mem hi ht)
    rw [if_neg (fun hc => hrow (Interval.contains_iff.1 hc)), add?, addToFirst_eq_none outside,
      Option.map_none]

theorem foldlM_add? (h : Tiles span (a.buckets.map (·.1))) (rows : List Row)
    (hrows : ∀ r ∈ rows, r.timestamp ∈ span) : rows.foldlM add? a = some (a.give rows) := by
  induction rows generalizing a with
  | nil => rw [give_nil, List.foldlM_nil, Option.pure_def]
  | cons row rest ih =>
    have hrow := Interval.contains_iff.2 (hrows row (by simp))
    rw [List.foldlM_cons, add?_eq h, if_pos hrow, Option.bind_eq_bind, Option.bind_some,
      give_cons row rest]
    exact ih (by rwa [intervals_give [row]]) fun r hr => hrows r (by simp [hr])

end Give

end Accumulator

abbrev Reading : Type := Int × Float

abbrev Store : Type := String → String → List Reading

namespace Dialect
variable {d : Dialect} {aggregation table id orderBy : String} {bounds : Interval}

def beforeTable (d : Dialect) (aggregation : String) : String :=
  "SELECT " ++ (if aggregation.isEmpty then d.timeColumn ++ ", " ++ d.valueColumn
    else aggregation ++ "(" ++ d.valueColumn ++ ")") ++ " FROM "

def afterTable (d : Dialect) (aggregation orderBy : String) : String :=
  " WHERE " ++ d.seriesColumn ++ " = ? AND " ++ d.timeColumn ++ " >= ? AND " ++ d.timeColumn ++
    " < ?" ++ (if aggregation.isEmpty && !orderBy.isEmpty then " ORDER BY " ++ orderBy else "")

theorem template_eq (d : Dialect) (aggregation table orderBy : String) :
    d.template aggregation table orderBy =
      d.beforeTable aggregation ++ table ++ d.afterTable aggregation orderBy := by
  unfold template beforeTable afterTable
  dsimp only
  generalize (if aggregation.isEmpty then d.timeColumn ++ ", " ++ d.valueColumn
    else aggregation ++ "(" ++ d.valueColumn ++ ")") = selection
  generalize (if aggregation.isEmpty && !orderBy.isEmpty then " ORDER BY " ++ orderBy
    else "") = order
  repeat rw [String.append_assoc]

def tableOf (d : Dialect) (aggregation orderBy template : String) : String :=
  let rest := template.toList.drop (d.beforeTable aggregation).toList.length
  String.ofList (rest.take (rest.length - (d.afterTable aggregation orderBy).toList.length))

theorem tableOf_template (d : Dialect) (aggregation table orderBy : String) :
    d.tableOf aggregation orderBy (d.template aggregation table orderBy) = table := by
  simp [tableOf, template_eq]

end Dialect

def Store.read (store : Store) (d : Dialect) (aggregation orderBy : String)
    (statement : Statement) : List Reading :=
  (store (d.tableOf aggregation orderBy statement.template) statement.seriesId).filter fun r =>
    statement.bounds.contains r.1

/-- What a reader folds that attributes the rows of a statement to its field. -/
def fedRows (answer : Statement → List Reading) (statements : List Statement) : List Row :=
  statements.flatMap fun statement => (answer statement).map fun r => ⟨statement.field, r.1, r.2⟩

def labelOf (x : Series) : Option String := (fieldLabel x.id).toOption

def Store.share (store : Store) (interval : Interval) (field : String) (x : Series) :
    List Reading :=
  if labelOf x = some field then (store x.table x.id).filter fun r => interval.contains r.1 else []

section Reads
variable {d : Dialect} {aggregation orderBy : String} {bounds : Interval} {store : Store}
  {xs : List Series} {statements : List Statement}

theorem labelOf_eq {x : Series} {field : String} (h : fieldLabel x.id = .ok field) :
    labelOf x = some field := by
  rw [labelOf, h]
  rfl

theorem flatMap_read (h : d.Reads aggregation orderBy bounds xs statements) (field : String) :
    (statements.filter (·.field == field)).flatMap (store.read d aggregation orderBy) =
      xs.flatMap (store.share bounds field) := by
  induction h with
  | nil => rfl
  | @cons x statement xs statements hx _ ih =>
    obtain ⟨hlabel, htemplate, hid, hbounds⟩ := Dialect.select_eq_ok_iff.1 hx
    have hread : store.read d aggregation orderBy statement =
        (store x.table x.id).filter fun r => bounds.contains r.1 := by
      rw [Store.read, htemplate, Dialect.tableOf_template, hid, hbounds]
    by_cases hf : statement.field = field
    · rw [List.filter_cons_of_pos (by simp [hf]), List.flatMap_cons, List.flatMap_cons, ih, hread,
        Store.share, labelOf_eq hlabel, if_pos (by rw [hf])]
    · rw [List.filter_cons_of_neg (by simp [hf]), List.flatMap_cons, ih, Store.share,
        labelOf_eq hlabel, if_neg (by simpa using hf), List.nil_append]

/-- The rows that a reader is fed, as far as they belong to a field and an interval. -/
theorem perm_fedRows {answer : Statement → List Reading}
    (h : d.Reads aggregation orderBy bounds xs statements)
    (hanswer : ∀ s ∈ statements, (answer s).Perm (store.read d aggregation orderBy s))
    {interval : Interval} (hsub : ∀ t, t ∈ interval → t ∈ bounds) (field : String) :
    ((rowsIn interval field (fedRows answer statements)).map fun r => (r.timestamp, r.value)).Perm
      (xs.flatMap (store.share interval field)) := by
  induction h with
  | nil => exact .nil
  | @cons x statement xs statements hx _ ih =>
    obtain ⟨hlabel, htemplate, hid, hbounds⟩ := Dialect.select_eq_ok_iff.1 hx
    have rest := ih fun s hs => hanswer s (by simp [hs])
    have first : ((rowsIn interval field ((answer statement).map fun r =>
        ⟨statement.field, r.1, r.2⟩)).map fun r => (r.timestamp, r.value)).Perm
        (store.share interval field x) := by
      rw [rowsIn, List.filter_map, List.map_map, Store.share, labelOf_eq hlabel]
      by_cases hf : statement.field = field
      · have hread := hanswer statement (by simp)
        rw [Store.read, htemplate, Dialect.tableOf_template, hid, hbounds] at hread
        have hperm := hread.filter fun r => interval.contains r.1
        rw [List.filter_filter] at hperm
        have hwithin : ∀ r : Reading, (interval.contains r.1 && bounds.contains r.1) =
            interval.contains r.1 := by
          intro r
          cases hi : interval.contains r.1
          · rfl
          · rw [Bool.true_and]
            exact Interval.contains_iff.2 (hsub _ (Interval.contains_iff.1 hi))
        simp only [hwithin] at hperm
        rw [if_pos (by rw [hf])]
        simpa [Function.comp_def, hf] using hperm
      · rw [if_neg (by simpa using hf)]
        simp [Function.comp_def, hf]
    rw [fedRows, List.flatMap_cons, rowsIn, List.filter_append, List.map_append, List.flatMap_cons]
    exact first.append rest

theorem mem_bounds_of_mem_fedRows {answer : Statement → List Reading}
    (h : d.Reads aggregation orderBy bounds xs statements)
    (hanswer : ∀ s ∈ statements, (answer s).Perm (store.read d aggregation orderBy s)) :
    ∀ r ∈ fedRows answer statements, r.timestamp ∈ bounds := by
  intro r hr
  rw [fedRows, List.mem_flatMap] at hr
  obtain ⟨statement, hstatement, hr⟩ := hr
  obtain ⟨reading, hreading, rfl⟩ := List.mem_map.1 hr
  obtain ⟨x, -, hx⟩ := exists_left_of_mem h hstatement
  have hread := (hanswer statement hstatement).mem_iff.1 hreading
  rw [Store.read, List.mem_filter, (Dialect.select_eq_ok_iff.1 hx).2.2.2] at hread
  exact Interval.contains_iff.1 hread.2

theorem share_eq_nil {interval : Interval} {field : String} {x : Series}
    (hinside : ∀ r ∈ store x.table x.id, r.1 ∈ x.interval) (h : x.reaches interval = false) :
    store.share interval field x = [] := by
  unfold Store.share
  split
  · rw [List.filter_eq_nil_iff]
    intro r hr hi
    have hmeets : x.interval.Meets interval := ⟨r.1, hinside r hr, Interval.contains_iff.1 hi⟩
    rw [reaches_iff.2 hmeets] at h
    exact absurd h (by simp)
  · rfl

theorem flatMap_share_filter {interval : Interval} {field : String}
    (hinside : ∀ x ∈ xs, ∀ r ∈ store x.table x.id, r.1 ∈ x.interval) :
    (xs.filter (·.reaches interval)).flatMap (store.share interval field) =
      xs.flatMap (store.share interval field) := by
  induction xs with
  | nil => rfl
  | cons x rest ih =>
    have ih := ih fun y hy => hinside y (by simp [hy])
    cases h : x.reaches interval
    · rw [List.filter_cons_of_neg (by simp [h]), ih, List.flatMap_cons,
        share_eq_nil (hinside x (by simp)) h, List.nil_append]
    · rw [List.filter_cons_of_pos (by exact h), List.flatMap_cons, List.flatMap_cons, ih]

end Reads

def FoldedPlan.opened (plan : FoldedPlan) (aggregator : Aggregator) : Accumulator :=
  ⟨aggregator, plan.limit, plan.buckets.map fun i =>
    (i, StringMap.ofList (plan.fields.map fun f => (f, Cell.empty)))⟩

theorem ofPlan_eq {plan : FoldedPlan} {aggregator : Aggregator}
    (h : Aggregator.read plan.aggregation = .ok aggregator) :
    Accumulator.ofPlan plan = .ok (plan.opened aggregator) := by
  rw [Accumulator.ofPlan, h]
  rfl

theorem intervals_opened (plan : FoldedPlan) (aggregator : Aggregator) :
    (plan.opened aggregator).buckets.map (·.1) = plan.buckets := by
  rw [FoldedPlan.opened, List.map_map]
  exact List.map_id plan.buckets

theorem get?_empty_cells (fields : List String) (field : String) :
    (StringMap.ofList (fields.map fun f => (f, Cell.empty))).get? field =
      if field ∈ fields then some Cell.empty else none := by
  rw [StringMap.get?_ofList]
  cases h : (fields.map fun f => (f, Cell.empty)).reverse.find? fun p => p.1 == field with
  | none =>
    rw [if_neg]
    · rfl
    · intro hfield
      rw [List.find?_eq_none] at h
      have hmem : (field, Cell.empty) ∈ fields.map fun f => (f, Cell.empty) :=
        List.mem_map_of_mem hfield
      exact h _ (List.mem_reverse.2 hmem) (by simp)
  | some p =>
    have hp := List.mem_of_find?_eq_some h
    have hfield : p.1 = field := by simpa using List.find?_some h
    rw [List.mem_reverse, List.mem_map] at hp
    obtain ⟨f, hf, rfl⟩ := hp
    rw [if_pos (hfield ▸ hf)]
    rfl

theorem getD_empty_cells (fields : List String) (field : String) :
    ((StringMap.ofList (fields.map fun f => (f, Cell.empty))).get? field).getD Cell.empty =
      Cell.empty := by
  rw [get?_empty_cells]
  split <;> rfl

theorem cells_of_run {plan : FoldedPlan} {aggregator : Aggregator} {span : Interval}
    (h : Aggregator.read plan.aggregation = .ok aggregator) (htiles : Tiles span plan.buckets)
    {rows : List Row} (hrows : ∀ r ∈ rows, r.timestamp ∈ span) :
    ∃ first last, Accumulator.ofPlan plan = .ok first ∧
      rows.foldlM Accumulator.add? first = some last ∧ last.buckets.map (·.1) = plan.buckets ∧
      ∀ b ∈ last.buckets, ∀ field,
        (b.2.get? field).getD Cell.empty = cellOf (rowsIn b.1 field rows) := by
  have intervals := intervals_opened plan aggregator
  refine ⟨_, _, ofPlan_eq h, Accumulator.foldlM_add? (intervals.symm ▸ htiles) rows hrows, ?_, ?_⟩
  · rw [Accumulator.intervals_give, intervals]
  · intro b hb field
    rw [Accumulator.give, FoldedPlan.opened, List.map_map, List.mem_map] at hb
    obtain ⟨i, -, rfl⟩ := hb
    simp only [Function.comp_apply]
    rw [Accumulator.getD_foldl_addToCells, getD_empty_cells, List.filter_filter]
    rfl

namespace Planner
variable {p : Planner} {series : List Series} {q : Query}

/-- A plan whose reader aggregates brings the same rows together as a plan that leaves the
aggregation to the store: each cell is folded from the rows that the store would have read for its
bucket and field, and no row is refused. The store may answer with its rows in any order. -/
theorem folded_rows_perm_bucketed (hp : p.index = Index.ofList series) {store : Store}
    (hinside : ∀ x ∈ series, ∀ r ∈ store x.table x.id, r.1 ∈ x.interval)
    {bucketedPlan : BucketedPlan} (hb : p.bucketed q = .ok bucketedPlan)
    {foldedPlan : FoldedPlan} (hf : p.folded q = .ok foldedPlan)
    {aggregator : Aggregator} (hlabel : Aggregator.read q.aggregation = .ok aggregator)
    {answer : Statement → List Reading} (hanswer : ∀ s ∈ foldedPlan.statements,
      (answer s).Perm (store.read p.dialect "" q.orderBy s)) :
    bucketedPlan.buckets.map (·.interval) =
      (if p.dialect.isNewestFirst q.orderBy then foldedPlan.buckets.reverse
        else foldedPlan.buckets) ∧
    ∃ first last, Accumulator.ofPlan foldedPlan = .ok first ∧
      (fedRows answer foldedPlan.statements).foldlM Accumulator.add? first = some last ∧
      last.buckets.map (·.1) = foldedPlan.buckets ∧
      ∀ e ∈ bucketedPlan.buckets, ∀ field,
        ((rowsIn e.interval field (fedRows answer foldedPlan.statements)).map fun r =>
            (r.timestamp, r.value)).Perm
          ((e.statements.filter (·.field == field)).flatMap
            (store.read p.dialect q.aggregation q.orderBy)) ∧
        ∀ cells, (e.interval, cells) ∈ last.buckets →
          (cells.get? field).getD Cell.empty =
            cellOf (rowsIn e.interval field (fedRows answer foldedPlan.statements)) := by
  obtain ⟨s, buckets, hs, hbuckets, -, hentries⟩ := (bucketed_eq_ok_iff hp).1 hb
  obtain ⟨s', buckets', hs', hbuckets', haggregation, -, -, -, hintervals, hreads⟩ :=
    (folded_eq_ok_iff hp).1 hf
  obtain rfl : s = s' := Except.ok.inj (hs.symm.trans hs')
  obtain rfl : buckets = buckets' := Except.ok.inj (hbuckets.symm.trans hbuckets')
  have htiles := tiles_of_groupBuckets hbuckets
  have hgroups := intervals_eq hentries
  refine ⟨?_, ?_⟩
  · rw [hgroups, hintervals]
    split
    · rw [List.reverse_reverse]
    · rfl
  · have hfolded : Tiles s.span foldedPlan.buckets := by
      rw [hintervals]
      split
      · exact htiles.reverse
      · exact htiles
    obtain ⟨first, last, hfirst, hlast, hsame, hcells⟩ :=
      cells_of_run (haggregation ▸ hlabel) hfolded (mem_bounds_of_mem_fedRows hreads hanswer)
    refine ⟨first, last, hfirst, hlast, hsame, ?_⟩
    intro e he field
    refine ⟨?_, fun cells hcell => hcells _ hcell field⟩
    obtain ⟨b, hb, hinterval, hstatements⟩ := exists_left_of_mem hentries he
    have hsub : ∀ t, t ∈ b.effective → t ∈ s.span := fun t ht =>
      htiles.mem_of_mem (List.mem_map_of_mem hb) ht
    rw [hinterval, flatMap_read hstatements, scan_of_subset hsub,
      flatMap_share_filter fun x hx => hinside x (mem_of_mem_scan hx)]
    exact perm_fedRows hreads hanswer hsub field

end Planner

/-- Rows before, at and after the start of the span, and on both sides of the edge of a bucket. -/
def edgeStore : Store := fun _ id =>
  if id = "cpu,host=a#user#1970-01-01" then
    [(30000000004, 1), (30000000005, 2), (44999999999, 3)]
  else if id = "cpu,host=a#user#1970-01-02" then
    [(45000000000, 4), (59999999999, 5), (60000000000, 6)]
  else []

theorem edgeStore_inside :
    ∀ x ∈ edgeSeries, ∀ r ∈ edgeStore x.table x.id, r.1 ∈ x.interval := by
  intro x hx
  simp only [edgeSeries, List.mem_cons, List.not_mem_nil, or_false] at hx
  rcases hx with rfl | rfl | rfl <;> simp [edgeStore, Interval.mem_iff]

def edgeAnswer (s : Statement) : List Reading :=
  (edgeStore.read edgePlanner.dialect "" edgeQuery.orderBy s).reverse

theorem edge_rows_agree : ∃ bucketedPlan foldedPlan,
    edgePlanner.bucketed edgeQuery = .ok bucketedPlan ∧
    edgePlanner.folded edgeQuery = .ok foldedPlan ∧
    bucketedPlan.buckets.map (·.interval) =
      (if edgePlanner.dialect.isNewestFirst edgeQuery.orderBy then foldedPlan.buckets.reverse
        else foldedPlan.buckets) ∧
    ∃ first last, Accumulator.ofPlan foldedPlan = .ok first ∧
      (fedRows edgeAnswer foldedPlan.statements).foldlM Accumulator.add? first = some last ∧
      last.buckets.map (·.1) = foldedPlan.buckets ∧
      ∀ e ∈ bucketedPlan.buckets, ∀ field,
        ((rowsIn e.interval field (fedRows edgeAnswer foldedPlan.statements)).map fun r =>
            (r.timestamp, r.value)).Perm
          ((e.statements.filter (·.field == field)).flatMap
            (edgeStore.read edgePlanner.dialect edgeQuery.aggregation edgeQuery.orderBy)) ∧
        ∀ cells, (e.interval, cells) ∈ last.buckets →
          (cells.get? field).getD Cell.empty =
            cellOf (rowsIn e.interval field (fedRows edgeAnswer foldedPlan.statements)) := by
  refine ⟨_, _, rfl, rfl, ?_⟩
  have label : Aggregator.read edgeQuery.aggregation = .ok .max := rfl
  exact Planner.folded_rows_perm_bucketed rfl edgeStore_inside rfl rfl label
    fun s _ => List.reverse_perm _

end SeriesBench
