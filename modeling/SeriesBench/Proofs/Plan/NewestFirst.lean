import SeriesBench.Proofs.Plan.Run
import SeriesBench.Proofs.Plan.Shapes
import SeriesBench.Proofs.Text.Words

set_option autoImplicit false

namespace SeriesBench
open SeriesBench.Time

def Time.Interval.Before (i j : Interval) : Prop := i.stop ≤ j.start

instance : IsTrans Interval Interval.Before where
  trans _ j _ hij hjk := Int.le_trans (Int.le_trans hij j.start_le_stop) hjk

theorem pairwise_of_groups {span : Interval} {width : Duration} {groups : List Interval}
    (h : Groups span width groups) : groups.Pairwise Interval.Before := by
  unfold Groups at h
  split at h
  · rw [h]
    exact List.pairwise_singleton _ _
  · split at h
    · rw [h]
      exact .nil
    · rw [← List.isChain_iff_pairwise]
      refine isChain_of_range ?_ h
      intro k i j hi hj
      rw [Interval.Before, hi.2.1, hj.1]
      omega

namespace Dialect
variable {d : Dialect} {orderBy : String}

/-- Whether the order is made of the time column and the word for descending, and nothing else. -/
def NewestFirst (d : Dialect) (orderBy : String) : Prop :=
  ∃ direction, Text.Spells direction ['D', 'E', 'S', 'C'] ∧
    Text.TwoWords orderBy.toList d.timeColumn.toList direction

theorem isNewestFirst_iff : d.isNewestFirst orderBy = true ↔ d.NewestFirst orderBy := by
  have spelled (direction : List Char) :
      direction.map Char.toLower = ['d', 'e', 's', 'c'] ↔
        Text.Spells direction ['D', 'E', 'S', 'C'] :=
    have upper : ['D', 'E', 'S', 'C'].all Char.isUpper = true := by decide
    Text.map_toLower_eq_iff (List.all_eq_true.1 upper)
  have column (w : List Char) : String.ofList w = d.timeColumn ↔ w = d.timeColumn.toList := by
    rw [← String.toList_inj, String.toList_ofList]
  unfold isNewestFirst
  split
  · rename_i w direction hwords
    rw [Bool.and_eq_true, beq_iff_eq, beq_iff_eq, spelled, column]
    constructor
    · rintro ⟨rfl, hspells⟩
      exact ⟨direction, hspells, Text.words_eq_pair_iff.1 hwords⟩
    · rintro ⟨other, hspells, htwo⟩
      have same := hwords.symm.trans (Text.words_eq_pair_iff.2 htwo)
      simp only [List.cons.injEq, and_true] at same
      exact ⟨same.1, same.2 ▸ hspells⟩
  · rename_i hwords
    simp only [Bool.false_eq_true, false_iff]
    rintro ⟨direction, -, htwo⟩
    exact hwords _ _ (Text.words_eq_pair_iff.2 htwo)

instance (d : Dialect) (orderBy : String) : Decidable (d.NewestFirst orderBy) :=
  decidable_of_iff _ isNewestFirst_iff

theorem newestFirst_iff : d.NewestFirst d.newestFirst ↔ Text.IsWord d.timeColumn.toList := by
  constructor
  · rintro ⟨direction, -, hcolumn, -⟩
    exact hcolumn
  · intro hcolumn
    have hdirection : Text.IsWord ['D', 'E', 'S', 'C'] := by decide
    refine ⟨_, List.forall₂_same.2 fun c _ => .inl rfl, hcolumn, hdirection, [], [' '], [], ?_,
      by decide, rfl, by decide, rfl⟩
    simp [newestFirst]

def arranged (d : Dialect) (orderBy : String) (ascending : List Interval) : List Interval :=
  if d.NewestFirst orderBy then ascending.reverse else ascending

theorem arranged_eq (d : Dialect) (orderBy : String) (ascending : List Interval) :
    (if d.isNewestFirst orderBy then ascending.reverse else ascending) =
      d.arranged orderBy ascending := by
  simp only [arranged, isNewestFirst_iff]

theorem truncated_arranged (d : Dialect) (orderBy : String) (n : UInt64)
    (ascending : List Interval) : truncated (some n) (d.arranged orderBy ascending) =
      if d.NewestFirst orderBy then (ascending.drop (ascending.length - n.toNat)).reverse
      else ascending.take n.toNat := by
  unfold arranged
  split
  · exact List.take_reverse
  · rfl

def Reordered (d : Dialect) (orderBy other : String) (s t : Statement) : Prop :=
  s.reading = t.reading ∧ ∃ table,
    s.template = d.template "" table orderBy ∧ t.template = d.template "" table other

theorem exists_reordered {bounds : Interval} {xs : List Series} {statements : List Statement}
    (h : d.Reads "" orderBy bounds xs statements) (other : String) :
    ∃ reordered, d.Reads "" other bounds xs reordered ∧
      List.Forall₂ (d.Reordered orderBy other) statements reordered := by
  have labelled : ∀ (x : Series) (s : Statement),
      d.select "" x.table x.id orderBy bounds = .ok s → fieldLabel x.id = .ok s.field ∧
        s.seriesId = x.id ∧ s.bounds = bounds := by
    intro x s hs
    obtain ⟨hfield, -, hid, hbounds⟩ := select_eq_ok_iff.1 hs
    exact ⟨hfield, hid, hbounds⟩
  obtain ⟨rows, hrows, hsame⟩ := exists_reads_as h labelled d other
  refine ⟨rows, hrows, hsame.imp ?_⟩
  rintro s t ⟨hreading, x, hs, htemplate⟩
  exact ⟨hreading, x.table, (select_eq_ok_iff.1 hs).2.1, htemplate⟩

end Dialect

/-- What a plan that folds rows owes to the order of its query. The intervals are those of its
buckets in ascending order. -/
structure FoldedPlan.Ordered (plan : FoldedPlan) (p : Planner) (q : Query)
    (ascending : List Interval) : Prop where
  buckets : plan.buckets = p.dialect.arranged q.orderBy ascending
  results : ∀ aggregator, Aggregator.read q.aggregation = .ok aggregator →
    ∃ first, Accumulator.ofPlan plan = .ok first ∧ ∀ rows,
      (q.limit = none → (first.feed rows).2.results.map (·.interval) = plan.buckets) ∧
      ∀ n, q.limit = some n → (first.feed rows).2.results.map (·.interval) =
        if p.dialect.NewestFirst q.orderBy then
          (ascending.drop (ascending.length - n.toNat)).reverse
        else ascending.take n.toNat
  reordered : ∀ orderBy, ∃ statements,
    p.folded { q with orderBy } = .ok { plan with
      buckets := p.dialect.arranged orderBy ascending, statements } ∧
    List.Forall₂ (p.dialect.Reordered q.orderBy orderBy) plan.statements statements

namespace Planner
variable {p : Planner} {q : Query} {plan : FoldedPlan}

theorem ordered_of_folded (h : p.folded q = .ok plan) : ∃ span ascending, q.span = .ok span ∧
    Groups span q.groupBy ascending ∧ plan.Ordered p q ascending := by
  obtain ⟨s, buckets, hs, hbuckets, haggregation, hgroup, hfields, hlimit, hintervals, hreads⟩ :=
    folded_ok_iff.1 h
  rw [Dialect.arranged_eq] at hintervals
  obtain ⟨span, hspan, htiles⟩ := tiles_of_folded h
  obtain rfl := Except.ok.inj (hspan.symm.trans (selection_eq_ok_iff.1 hs).2.2.1)
  refine ⟨_, buckets.map (·.effective), hspan, groups_of_groupBuckets hbuckets, hintervals, ?_, ?_⟩
  · intro aggregator hlabel
    obtain ⟨first, hfirst, hresults⟩ := FoldedPlan.exists_results (haggregation ▸ hlabel) htiles
    refine ⟨first, hfirst, fun rows => ⟨fun hnone => ?_, fun n hsome => ?_⟩⟩
    · rw [hresults, hlimit, hnone, truncated]
    · rw [hresults, hlimit, hsome, hintervals, Dialect.truncated_arranged]
  · intro orderBy
    obtain ⟨statements, hother, hsame⟩ := Dialect.exists_reordered hreads orderBy
    refine ⟨statements, folded_ok_iff.2 ?_, hsame⟩
    exact ⟨s, buckets, hs, hbuckets, haggregation, hgroup, hfields, hlimit,
      (p.dialect.arranged_eq _ _).symm, hother⟩

/-- An order by the time column, newest first, turns the buckets of a plan round, and with them what
a limit keeps; the order for the last row of a series is one. -/
theorem folded_in_order (p : Planner) (q : Query) :
    (∀ plan, p.folded q = .ok plan → ∃ span ascending, q.span = .ok span ∧
      Groups span q.groupBy ascending ∧ ascending.Pairwise Interval.Before ∧
      plan.Ordered p q ascending) ∧
    (∀ table id bounds statement, p.dialect.selectLatest table id bounds = .ok statement →
      statement.template = p.dialect.template "" table p.dialect.newestFirst ++ " LIMIT 1") ∧
    (Text.IsWord p.dialect.timeColumn.toList →
      p.dialect.isNewestFirst p.dialect.newestFirst = true) := by
  refine ⟨?_, ?_, ?_⟩
  · intro plan h
    obtain ⟨span, ascending, hspan, hgroups, hordered⟩ := ordered_of_folded h
    exact ⟨span, ascending, hspan, hgroups, pairwise_of_groups hgroups, hordered⟩
  · intro table id bounds statement h
    exact (Dialect.selectLatest_eq_ok_iff.1 h).2.1
  · intro hcolumn
    exact Dialect.isNewestFirst_iff.2 (Dialect.newestFirst_iff.2 hcolumn)

end Planner

/-- The newest minute of the query alone, in an order with other blanks and letters than usual. -/
def spacedQuery : Query :=
  { edgeQuery with orderBy := "\t timestamp_ns\u3000dEsC\n", limit := some 1 }

theorem spaced_in_order : ∃ plan span ascending first, edgePlanner.folded spacedQuery = .ok plan ∧
    spacedQuery.span = .ok span ∧ Groups span spacedQuery.groupBy ascending ∧
    ascending.Pairwise Interval.Before ∧ plan.buckets = ascending.reverse ∧
    plan.buckets.map (·.start) = [60000000000, 30000000005] ∧
    Accumulator.ofPlan plan = .ok first ∧
    (first.feed edgeRows).2.results.map (·.interval) = (ascending.drop 1).reverse ∧
    edgePlanner.dialect.isNewestFirst edgePlanner.dialect.newestFirst = true := by
  have newest : edgePlanner.dialect.NewestFirst spacedQuery.orderBy :=
    Dialect.isNewestFirst_iff.1 (by decide)
  obtain ⟨plan, hplan, hstarts⟩ : ∃ plan, edgePlanner.folded spacedQuery = .ok plan ∧
      plan.buckets.map (·.start) = [60000000000, 30000000005] := ⟨_, rfl, rfl⟩
  obtain ⟨ordered, -, known⟩ := Planner.folded_in_order edgePlanner spacedQuery
  obtain ⟨span, ascending, hspan, hgroups, hbefore, hordered⟩ := ordered plan hplan
  obtain ⟨first, hfirst, hresults⟩ := hordered.results .max rfl
  have turned : plan.buckets = ascending.reverse := by
    rw [hordered.buckets, Dialect.arranged, if_pos newest]
  have two : ascending.length = 2 := by
    rw [← List.length_reverse, ← turned, ← List.length_map (·.start), hstarts]
    rfl
  refine ⟨plan, span, ascending, first, hplan, hspan, hgroups, hbefore, turned, hstarts, hfirst,
    ?_, known (by decide)⟩
  have kept := (hresults edgeRows).2 1 rfl
  rw [if_pos newest, two] at kept
  exact kept

end SeriesBench
