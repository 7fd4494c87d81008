import SeriesBench.Proofs.Plan.Fold

set_option autoImplicit false

namespace SeriesBench
open SeriesBench.Time

def truncated {α : Type} (limit : Option UInt64) (items : List α) : List α :=
  match limit with
  | none => items
  | some n => items.take n.toNat

namespace Accumulator

def feed (a : Accumulator) : List Row → List Bool × Accumulator
  | [] => ([], a)
  | row :: rest =>
    let taken := a.add? row
    let (more, last) := feed (taken.getD a) rest
    (taken.isSome :: more, last)

def countCells : List (String × Cell) → Nat
  | [] => 0
  | entry :: rest => entry.2.count + countCells rest

def countBuckets : List (Interval × StringMap Cell) → Nat
  | [] => 0
  | b :: rest => countCells b.2.entries + countBuckets rest

def rowCount (a : Accumulator) : Nat := countBuckets a.buckets

end Accumulator

/-- What comes of the rows if the accumulator of a plan is fed with them. -/
structure FoldedPlan.Ran (plan : FoldedPlan) (aggregator : Aggregator) (span : Interval)
    (rows : List Row) (first last : Accumulator) : Prop where
  started : Accumulator.ofPlan plan = .ok first
  fed : first.feed rows = (rows.map fun r => span.contains r.timestamp, last)
  intervals : last.buckets.map (·.1) = plan.buckets
  cells : ∀ b ∈ last.buckets, ∀ field, b.2.get? field =
    if field ∈ plan.fields ∨ rowsIn b.1 field rows ≠ [] then some (cellOf (rowsIn b.1 field rows))
    else none
  counts : ∀ b ∈ last.buckets, ∀ field,
    ((b.2.get? field).getD Cell.empty).count = (rowsIn b.1 field rows).length
  total : last.rowCount = rows.countP fun r => span.contains r.timestamp
  order : last.results.map (·.interval) = truncated plan.limit plan.buckets
  values : ∀ r ∈ last.results, ∀ field, r.values.get? field =
    if field ∈ plan.fields ∨ rowsIn r.interval field rows ≠ [] then
      some ((cellOf (rowsIn r.interval field rows)).value? aggregator)
    else none
  vacant : ∀ r ∈ last.results, ∀ field ∈ plan.fields, rowsIn r.interval field rows = [] →
    r.values.get? field = some (if aggregator = .count then some 0 else none)
  /-- A limit has no say in which rows are taken nor in what the buckets hold. -/
  limited : ∀ limit, ∃ first' last',
    Accumulator.ofPlan { plan with limit } = .ok first' ∧
    first'.feed rows = (rows.map fun r => span.contains r.timestamp, last') ∧
    last'.buckets = last.buckets ∧
    last'.results = truncated limit ({ last with limit := none } : Accumulator).results

theorem Cell.count_add (c : Cell) (value : Float) : (c.add value).count = c.count + 1 := rfl

theorem count_cellOf (rows : List Row) : (cellOf rows).count = rows.length := by
  have step (c : Cell) : (rows.foldl (fun c r => c.add r.value) c).count = c.count + rows.length := by
    induction rows generalizing c with
    | nil => rfl
    | cons row rest ih =>
      rw [List.foldl_cons, ih, List.length_cons, Cell.count_add]
      omega
  rw [cellOf, step]
  exact Nat.zero_add _

theorem value?_empty (aggregator : Aggregator) :
    Cell.empty.value? aggregator = if aggregator = .count then some 0 else none := by
  cases aggregator <;> rfl

theorem rowsIn_eq (interval : Interval) (field : String) (rows : List Row) :
    rowsIn interval field rows =
      (rows.filter fun r => interval.contains r.timestamp).filter (·.field == field) := by
  rw [rowsIn, List.filter_filter]

namespace Accumulator

section Feed
variable {a : Accumulator} {span : Interval}

theorem give_of_refused {row : Row} (h : Tiles span (a.buckets.map (·.1)))
    (hrow : row.timestamp ∉ span) : a.give [row] = a := by
  have same : a.buckets.map (fun b =>
      (b.1, ([row].filter fun r => b.1.contains r.timestamp).foldl addToCells b.2)) = a.buckets := by
    refine (List.map_congr_left ?_).trans (List.map_id a.buckets)
    intro b hb
    have outside : b.1.contains row.timestamp = false := by
      rw [Bool.eq_false_iff]
      intro hc
      exact hrow (h.mem_of_mem (List.mem_map_of_mem hb) (Interval.contains_iff.1 hc))
    simp [outside]
  rw [give, same]

theorem getD_add? (h : Tiles span (a.buckets.map (·.1))) (row : Row) :
    (a.add? row).getD a = a.give [row] := by
  rw [add?_eq h]
  by_cases hrow : row.timestamp ∈ span
  · rw [if_pos (Interval.contains_iff.2 hrow), Option.getD_some]
  · rw [if_neg (fun hc => hrow (Interval.contains_iff.1 hc)), Option.getD_none,
      give_of_refused h hrow]

theorem feed_eq (h : Tiles span (a.buckets.map (·.1))) (rows : List Row) :
    a.feed rows = (rows.map fun r => span.contains r.timestamp, a.give rows) := by
  induction rows generalizing a with
  | nil => rw [feed, give_nil, List.map_nil]
  | cons row rest ih =>
    -- no row changes the intervals, so the buckets still tile the span at the next one
    have hnext : Tiles span ((a.give [row]).buckets.map (·.1)) := by rwa [intervals_give]
    have taken : (a.add? row).isSome = span.contains row.timestamp := by
      rw [add?_eq h]
      split <;> simp_all
    rw [feed, getD_add? h, ih hnext, taken, give_cons row rest, List.map_cons]

end Feed

theorem countCells_place (row : Row) (entries : List (String × Cell)) :
    countCells (StringMap.place row.field (fun c => (c.getD Cell.empty).add row.value) entries) =
      countCells entries + 1 := by
  induction entries with
  | nil => rfl
  | cons entry rest ih =>
    obtain ⟨key, cell⟩ := entry
    rw [StringMap.place]
    split
    · change cell.count + 1 + countCells rest = cell.count + countCells rest + 1
      omega
    · split
      · change 0 + 1 + countCells ((key, cell) :: rest) = _
        omega
      · rw [countCells, ih, countCells]
        omega

theorem countBuckets_addToFirst {row : Row} {buckets buckets' : List (Interval × StringMap Cell)}
    (h : addToFirst row buckets = some buckets') :
    countBuckets buckets' = countBuckets buckets + 1 := by
  induction buckets generalizing buckets' with
  | nil => exact absurd h (by simp [addToFirst])
  | cons b rest ih =>
    obtain ⟨interval, cells⟩ := b
    rw [addToFirst] at h
    split at h
    · cases h
      rw [countBuckets, StringMap.upsert, countCells_place, countBuckets]
      dsimp only
      omega
    · obtain ⟨rest', hrest, rfl⟩ := Option.map_eq_some_iff.1 h
      rw [countBuckets, ih hrest, countBuckets]
      omega

theorem rowCount_feed (a : Accumulator) (rows : List Row) :
    (a.feed rows).2.rowCount = a.rowCount + (a.feed rows).1.count true := by
  induction rows generalizing a with
  | nil => rfl
  | cons row rest ih =>
    rw [feed]
    dsimp only
    rw [ih]
    cases hadd : a.add? row with
    | none => simp
    | some next =>
      obtain ⟨buckets, hbuckets, rfl⟩ := Option.map_eq_some_iff.1 hadd
      have one : ({ a with buckets } : Accumulator).rowCount = a.rowCount + 1 :=
        countBuckets_addToFirst hbuckets
      simp only [Option.getD_some, Option.isSome_some, List.count_cons_self, one]
      omega

theorem countCells_eq_zero {entries : List (String × Cell)} (h : ∀ e ∈ entries, e.2.count = 0) :
    countCells entries = 0 := by
  induction entries with
  | nil => rfl
  | cons entry rest ih =>
    rw [List.forall_mem_cons] at h
    rw [countCells, h.1, ih h.2]

theorem countBuckets_map {cells : StringMap Cell} (h : countCells cells.entries = 0)
    (intervals : List Interval) : countBuckets (intervals.map fun i => (i, cells)) = 0 := by
  induction intervals with
  | nil => rfl
  | cons i rest ih => rw [List.map_cons, countBuckets, h, ih]

theorem rowCount_opened (plan : FoldedPlan) (aggregator : Aggregator) :
    (plan.opened aggregator).rowCount = 0 := by
  apply countBuckets_map
  apply countCells_eq_zero
  intro e he
  have found := StringMap.get?_of_mem he
  rw [get?_empty_cells] at found
  split at found
  · rw [← Option.some.inj found]
    rfl
  · exact absurd found (by simp)

theorem results_eq (a : Accumulator) :
    a.results = truncated a.limit ({ a with limit := none } : Accumulator).results := by
  obtain ⟨aggregator, limit, buckets⟩ := a
  cases limit with
  | none => rfl
  | some n => simp only [results, truncated, List.map_take]

theorem intervals_results (a : Accumulator) :
    a.results.map (·.interval) = truncated a.limit (a.buckets.map (·.1)) := by
  obtain ⟨aggregator, limit, buckets⟩ := a
  cases limit with
  | none => simp [results, truncated, Function.comp_def]
  | some n => simp [results, truncated, Function.comp_def, List.map_take]

theorem exists_bucket_of_mem_results {a : Accumulator} {r : BucketResult} (h : r ∈ a.results) :
    ∃ b ∈ a.buckets, r.interval = b.1 ∧ r.values = b.2.mapValues (·.value? a.aggregator) := by
  rw [results, List.mem_map] at h
  obtain ⟨b, hb, rfl⟩ := h
  refine ⟨b, ?_, rfl, rfl⟩
  split at hb
  · exact hb
  · exact List.mem_of_mem_take hb

end Accumulator

section Plan
variable {plan : FoldedPlan} {aggregator : Aggregator} {rows : List Row}

theorem get?_give_opened {b : Interval × StringMap Cell}
    (hb : b ∈ ((plan.opened aggregator).give rows).buckets) (field : String) :
    b.2.get? field =
      if field ∈ plan.fields ∨ rowsIn b.1 field rows ≠ [] then
        some (cellOf (rowsIn b.1 field rows))
      else none := by
  rw [Accumulator.give, FoldedPlan.opened, List.map_map, List.mem_map] at hb
  obtain ⟨i, -, rfl⟩ := hb
  simp only [Function.comp_apply]
  rw [Accumulator.get?_foldl_addToCells, getD_empty_cells, get?_empty_cells, ← rowsIn_eq]
  by_cases hrows : rowsIn i field rows = []
  · simp only [hrows, if_true, ne_eq, not_true_eq_false, or_false]
    rfl
  · rw [if_neg hrows, if_pos (.inr hrows)]
    rfl

theorem get?_of_mem_results {r : BucketResult}
    (hr : r ∈ ((plan.opened aggregator).give rows).results) (field : String) :
    r.values.get? field =
      if field ∈ plan.fields ∨ rowsIn r.interval field rows ≠ [] then
        some ((cellOf (rowsIn r.interval field rows)).value? aggregator)
      else none := by
  obtain ⟨b, hb, hinterval, hvalues⟩ := Accumulator.exists_bucket_of_mem_results hr
  rw [hvalues, hinterval, StringMap.get?_mapValues, get?_give_opened hb]
  split <;> rfl

theorem FoldedPlan.ran_of_tiles {span : Interval}
    (hlabel : Aggregator.read plan.aggregation = .ok aggregator) (htiles : Tiles span plan.buckets)
    (rows : List Row) :
    plan.Ran aggregator span rows (plan.opened aggregator)
      ((plan.opened aggregator).give rows) := by
  have fed (limit : Option UInt64) := Accumulator.feed_eq
    ((intervals_opened { plan with limit } aggregator).symm ▸ htiles) rows
  have intervals : ((plan.opened aggregator).give rows).buckets.map (·.1) = plan.buckets := by
    rw [Accumulator.intervals_give, intervals_opened]
  constructor
  case started => exact ofPlan_eq hlabel
  case fed => exact fed plan.limit
  case intervals => exact intervals
  case cells => exact fun b hb field => get?_give_opened hb field
  case counts =>
    intro b hb field
    rw [get?_give_opened hb]
    split
    · rw [Option.getD_some, count_cellOf]
    · rename_i hnone
      rw [Option.getD_none, Decidable.not_not.1 (not_or.1 hnone).2]
      rfl
  case total =>
    have counted := Accumulator.rowCount_feed (plan.opened aggregator) rows
    rw [fed plan.limit, Accumulator.rowCount_opened, Nat.zero_add, List.count, List.countP_map] at counted
    rw [counted]
    simp [Function.comp_def]
  case order =>
    rw [Accumulator.intervals_results, intervals]
    rfl
  case values => exact fun r hr field => get?_of_mem_results hr field
  case vacant =>
    intro r hr field hfield hrows
    rw [get?_of_mem_results hr, if_pos (.inl hfield), hrows, ← value?_empty]
    rfl
  case limited =>
    intro limit
    exact ⟨_, _, ofPlan_eq hlabel, fed limit, rfl, Accumulator.results_eq _⟩

theorem FoldedPlan.exists_results {span : Interval}
    (hlabel : Aggregator.read plan.aggregation = .ok aggregator)
    (htiles : Tiles span plan.buckets) : ∃ first, Accumulator.ofPlan plan = .ok first ∧
      ∀ rows, (first.feed rows).2.results.map (·.interval) = truncated plan.limit plan.buckets := by
  refine ⟨_, ofPlan_eq hlabel, fun rows => ?_⟩
  have ran := ran_of_tiles hlabel htiles rows
  rw [ran.fed]
  exact ran.order

end Plan

/-- The shape of a plan whose reader aggregates does not depend on the series that it reads. -/
theorem Planner.tiles_of_folded {p : Planner} {q : Query} {plan : FoldedPlan}
    (h : p.folded q = .ok plan) : ∃ span, q.span = .ok span ∧ Tiles span plan.buckets := by
  obtain ⟨s, buckets, hs, hbuckets, -, -, -, -, hintervals, -⟩ := folded_ok_iff.1 h
  have htiles := tiles_of_groupBuckets hbuckets
  refine ⟨s.span, (selection_eq_ok_iff.1 hs).2.2.1, ?_⟩
  rw [hintervals]
  split
  · exact htiles.reverse
  · exact htiles

/-- The rows of the span end up in the cells of their buckets and fields, each in one and in the
order in which they came; the results are those cells, as far as the limit goes. -/
theorem Planner.folded_ran {p : Planner} {q : Query} {plan : FoldedPlan}
    (hplan : p.folded q = .ok plan) {aggregator : Aggregator}
    (hlabel : Aggregator.read plan.aggregation = .ok aggregator) :
    ∃ span, q.span = .ok span ∧
      ∀ rows, ∃ first last, plan.Ran aggregator span rows first last := by
  obtain ⟨span, hspan, htiles⟩ := tiles_of_folded hplan
  exact ⟨span, hspan, fun rows => ⟨_, _, FoldedPlan.ran_of_tiles hlabel htiles rows⟩⟩

def newestQuery : Query := { edgeQuery with orderBy := edgePlanner.dialect.newestFirst, limit := some 1 }

/-- A row too early by a nanosecond, two in the older minute, one of them of a field that the query
does not name, and one at the start of the newer minute. -/
def edgeRows : List Row :=
  [⟨"user", 30000000004, 1⟩, ⟨"user", 30000000005, 2⟩, ⟨"idle", 59999999999, 3⟩,
    ⟨"user", 60000000000, 4⟩]

theorem edgeRows_ran : ∃ plan span first last, edgePlanner.folded newestQuery = .ok plan ∧
    Aggregator.read plan.aggregation = .ok .max ∧ newestQuery.span = .ok span ∧
    plan.Ran .max span edgeRows first last ∧
    (first.feed edgeRows).1 = [false, true, true, true] ∧ last.rowCount = 3 ∧
    last.results.map (·.interval.start) = [60000000000] := by
  obtain ⟨plan, hplan, hlabel, hlimit, hstarts⟩ : ∃ plan,
      edgePlanner.folded newestQuery = .ok plan ∧ Aggregator.read plan.aggregation = .ok .max ∧
      plan.limit = some 1 ∧ plan.buckets.map (·.start) = [60000000000, 30000000005] :=
    ⟨_, rfl, rfl, rfl, rfl⟩
  obtain ⟨span, hspan, hran⟩ := Planner.folded_ran hplan hlabel
  obtain ⟨first, last, h⟩ := hran edgeRows
  have within : edgeRows.map (fun r => span.contains r.timestamp) = [false, true, true, true] := by
    have known : newestQuery.span =
        .ok ⟨30000000005, 100000000000, by decide, by decide, by decide⟩ := rfl
    obtain rfl := Except.ok.inj (hspan.symm.trans known)
    rfl
  refine ⟨plan, span, first, last, hplan, hlabel, hspan, h, ?_, ?_, ?_⟩
  · rw [h.fed, within]
  · have counted := congrArg (List.countP id) within
    rw [List.countP_map] at counted
    exact h.total.trans counted
  · have starts := congrArg (List.map Interval.start) h.order
    rw [List.map_map, hlimit, truncated, List.map_take, hstarts] at starts
    exact starts

end SeriesBench
