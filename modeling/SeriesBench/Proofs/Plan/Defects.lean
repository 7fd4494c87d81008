import SeriesBench.Proofs.Failure
import SeriesBench.Proofs.Plan.Scan

set_option autoImplicit false

/-!
# Why a query has no plan

All shapes of plans look for the same defects in the same order: first in the query, then in its
width if rows are grouped by it, and last in the ids of the series that the statements read. Each
defect is told from the query and the known series alone.
-/
namespace SeriesBench
open SeriesBench.Time SeriesBench.Text

/-- What is wrong with a for-every spec: that it is not two parts of which the first has characters,
or else that the second is no number. -/
inductive BadForEvery (spec : String) : PlanError → Prop where
  | shape (h : ∀ tag count, split ',' spec.toList = [tag, count] → tag = []) :
    BadForEvery spec (.forEveryShape spec)
  | count {tag count : List Char} {fault : NumberFault}
    (hparts : split ',' spec.toList = [tag, count]) (htag : tag ≠ [])
    (hcount : readInt 9223372036854775808 9223372036854775807 count = .error fault) :
    BadForEvery spec (.forEveryCount spec fault)

def badTerm (term : String) : Bool :=
  decide ('=' ∉ term.toList ∨ term.toList.head? = some '=')

def fieldless (x : Series) : Bool := decide ('#' ∉ x.id.toList)

def blameId (x : Series) : PlanError := .seriesId x.id .noFieldSegment

def OutOfRange (t : Instant) : Prop := t.unixNanos < minTimestamp ∨ maxTimestamp < t.unixNanos

namespace Query

def selectionDefects (q : Query) : List (PlanError → Prop) :=
  [fun e => q.measurementName = "" ∧ e = .noMeasurement,
    fun e => q.fieldNames = "" ∧ e = .noField,
    fun e => OutOfRange q.timeStart ∧ e = .instantRange q.timeStart,
    fun e => OutOfRange q.timeEnd ∧ e = .instantRange q.timeEnd,
    fun e => q.timeEnd.unixNanos < q.timeStart.unixNanos ∧
      e = .backwardSpan q.timeStart.unixNanos q.timeEnd.unixNanos,
    Blamed badTerm .tagTerm q.tagSets.flatten]

def HasBuckets (q : Query) : Prop := q.forEverySpec = "" ∧ q.aggregation ≠ ""

instance (q : Query) : Decidable q.HasBuckets := inferInstanceAs (Decidable (_ ∧ _))

/-- Whether there are no buckets of the width: it is no timestamp, or the first of them would begin
before all timestamps. -/
def BadWidth (q : Query) : Prop :=
  maxTimestamp < q.groupBy.nanos ∨ q.timeStart.unixNanos < q.timeEnd.unixNanos ∧
    q.timeStart.unixNanos / q.groupBy.nanos * q.groupBy.nanos < minTimestamp

end Query

/-- The series that a plan reads, in the order of its statements: by bucket if the store aggregates,
and otherwise as they are found. -/
def ReadOrder (series : List Series) (side : AggregationSide) (q : Query) (s : Selection)
    (xs : List Series) : Prop :=
  if q.HasBuckets ∧ side = .server then
    ∃ groups, Groups s.span q.groupBy groups ∧ xs = groups.flatMap (scan series s)
  else xs = scan series s s.span

def ForEveryDefect (q : Query) (e : PlanError) : Prop :=
  q.forEverySpec ≠ "" ∧ BadForEvery q.forEverySpec e

def WidthDefect (q : Query) (e : PlanError) : Prop :=
  (q.HasBuckets ∧ q.groupBy.nanos ≠ 0 ∧ q.BadWidth) ∧ e = .bucketWidth q.groupBy

def SeriesDefect (series : List Series) (side : AggregationSide) (q : Query) (e : PlanError) : Prop :=
  ∃ s xs, q.selection = .ok s ∧ ReadOrder series side q s xs ∧ Blamed fieldless blameId xs e

/-- All that can be wrong with a query, in the order in which it is looked for. -/
def defects (series : List Series) (side : AggregationSide) (q : Query) : List (PlanError → Prop) :=
  ForEveryDefect q :: (q.selectionDefects ++ [WidthDefect q, SeriesDefect series side q])

section ForEvery
variable {spec : String} {e : PlanError}

theorem badForEvery_shape_iff (h : ∀ tag count, split ',' spec.toList = [tag, count] → tag = []) :
    BadForEvery spec e ↔ e = .forEveryShape spec := by
  constructor
  · intro he
    cases he with
    | shape _ => rfl
    | count hparts htag _ => exact absurd (h _ _ hparts) htag
  · rintro rfl
    exact .shape h

theorem badForEvery_count_iff {tag count : List Char}
    (hparts : split ',' spec.toList = [tag, count]) (htag : tag ≠ []) :
    BadForEvery spec e ↔ ∃ fault,
      readInt 9223372036854775808 9223372036854775807 count = .error fault ∧
        e = .forEveryCount spec fault := by
  constructor
  · intro he
    cases he with
    | shape h => exact absurd (h _ _ hparts) htag
    | count hparts' _ hcount =>
      rw [hparts] at hparts'
      cases hparts'
      exact ⟨_, hcount, rfl⟩
  · rintro ⟨fault, hcount, rfl⟩
    exact .count hparts htag hcount

theorem forEvery_reports (spec : String) : Reports (ForEvery.read spec) [BadForEvery spec] := by
  apply Reports.one
  intro e
  unfold ForEvery.read
  split
  · rename_i t tag count hparts
    rw [badForEvery_count_iff hparts (by simp)]
    cases readInt 9223372036854775808 9223372036854775807 count <;> simp [eq_comm]
  · rename_i hother
    rw [badForEvery_shape_iff]
    · simp [eq_comm]
    · intro tag count hparts
      cases tag with
      | nil => rfl
      | cons t tag => exact absurd hparts (hother t tag count)

end ForEvery

theorem tagTerm_reports (term : String) :
    Reports (TagTerm.read term) [fun e => badTerm term = true ∧ e = .tagTerm term] := by
  apply Reports.one
  intro e
  unfold TagTerm.read badTerm
  rw [decide_eq_true_iff]
  cases hcut : splitOnce '=' term.toList with
  | none =>
    have hnone := splitOnce_eq_none.1 hcut
    simp [hnone, eq_comm]
  | some parts =>
    obtain ⟨key, value⟩ := parts
    obtain ⟨hterm, hkey⟩ := eq_of_splitOnce hcut
    cases key with
    | nil => simp [hterm, eq_comm]
    | cons k key =>
      have hk : k ≠ '=' := (List.ne_of_not_mem_cons hkey).symm
      simp [hterm, hk]

theorem fieldLabel_reports (id : String) :
    Reports (fieldLabel id) [fun e => '#' ∉ id.toList ∧ e = .seriesId id .noFieldSegment] := by
  apply Reports.one
  intro e
  unfold fieldLabel
  by_cases hmem : '#' ∈ id.toList
  · obtain ⟨before, after, hid⟩ := List.append_of_mem hmem
    have cut := split_append_cons '#' before after
    rw [← hid] at cut
    obtain ⟨last, init, hlast⟩ := List.exists_cons_of_ne_nil
      (mt List.reverse_eq_nil_iff.1 (split_ne_nil '#' after))
    obtain ⟨field, front, hfield⟩ := List.exists_cons_of_ne_nil
      (mt List.reverse_eq_nil_iff.1 (split_ne_nil '#' before))
    rw [cut, List.reverse_append, hlast, hfield]
    cases init <;> simp [hmem]
  · rw [split_of_not_mem hmem]
    simp [hmem, eq_comm]

theorem timestampOf_reports (t : Instant) :
    Reports (timestampOf t) [fun e => OutOfRange t ∧ e = .instantRange t] := by
  apply Reports.one
  intro e
  unfold timestampOf Instant.timestamp? Timestamp.ofInt? OutOfRange
  by_cases h : minTimestamp ≤ t.unixNanos ∧ t.unixNanos ≤ maxTimestamp
  · have inside : ¬ (t.unixNanos < minTimestamp ∨ maxTimestamp < t.unixNanos) := by omega
    simp [h, inside]
  · have outside : t.unixNanos < minTimestamp ∨ maxTimestamp < t.unixNanos := by omega
    simp [h, outside, eq_comm]

theorem val_of_timestampOf {t : Instant} {n : Timestamp} (h : timestampOf t = .ok n) :
    n.val = t.unixNanos := by
  unfold timestampOf Instant.timestamp? Timestamp.ofInt? at h
  split at h
  · rename_i m hm
    split at hm
    · cases hm
      cases h
      rfl
    · exact absurd hm (by simp)
  · exact absurd h (by simp)

theorem spanOf_reports (start stop : Timestamp) :
    Reports (spanOf start stop)
      [fun e => stop.val < start.val ∧ e = .backwardSpan start.val stop.val] := by
  apply Reports.one
  intro e
  unfold spanOf Interval.between?
  by_cases h : start.val ≤ stop.val
  · have order : ¬ stop.val < start.val := by omega
    simp [h, order]
  · have order : stop.val < start.val := by omega
    simp [h, order, eq_comm]

theorem bounds_of_spanOf {start stop : Timestamp} {span : Interval}
    (h : spanOf start stop = .ok span) : span.start = start.val ∧ span.stop = stop.val := by
  unfold spanOf Interval.between? at h
  split at h
  · rename_i i hi
    split at hi
    · cases hi
      cases h
      exact ⟨rfl, rfl⟩
    · exact absurd hi (by simp)
  · exact absurd h (by simp)

theorem bounds_of_spanBetween {start stop : Instant} {span : Interval}
    (h : spanBetween start stop = .ok span) :
    span.start = start.unixNanos ∧ span.stop = stop.unixNanos := by
  obtain ⟨first, hfirst, h⟩ := bind_eq_ok_iff.1 h
  obtain ⟨last, hlast, h⟩ := bind_eq_ok_iff.1 h
  obtain ⟨hstart, hstop⟩ := bounds_of_spanOf h
  rw [hstart, hstop, val_of_timestampOf hfirst, val_of_timestampOf hlast]
  exact ⟨rfl, rfl⟩

theorem spanBetween_reports (start stop : Instant) :
    Reports (spanBetween start stop)
      [fun e => OutOfRange start ∧ e = .instantRange start,
        fun e => OutOfRange stop ∧ e = .instantRange stop,
        fun e => stop.unixNanos < start.unixNanos ∧
          e = .backwardSpan start.unixNanos stop.unixNanos] := by
  unfold spanBetween
  refine (timestampOf_reports start).bind ?_
  intro first hfirst
  refine (timestampOf_reports stop).bind ?_
  intro last hlast
  rw [← val_of_timestampOf hfirst, ← val_of_timestampOf hlast]
  exact spanOf_reports first last

theorem tagFilter_reports (clauses : List (List String)) :
    Reports (TagFilter.readClauses clauses) [Blamed badTerm .tagTerm clauses.flatten] := by
  unfold TagFilter.readClauses
  rw [← List.flatMap_id']
  apply Reports.map
  apply reports_mapM
  intro clause _
  apply reports_mapM_self
  intro term _
  exact tagTerm_reports term

theorem selection_reports (q : Query) : Reports q.selection q.selectionDefects := by
  unfold Query.selection
  refine Reports.cons_bind (Reports.ite String.isEmpty_iff _ _) ?_
  intro measurement _
  refine Reports.cons_bind (Reports.ite String.isEmpty_iff _ _) ?_
  intro fields _
  refine (spanBetween_reports q.timeStart q.timeEnd).bind ?_
  intro span _
  exact (tagFilter_reports q.tagSets).bind_ok _

theorem groupBuckets_reports {q : Query} (hq : q.HasBuckets) {span : Interval}
    (hspan : q.span = .ok span) : Reports (groupBuckets span q.groupBy) [WidthDefect q] := by
  apply Reports.one
  intro e
  obtain ⟨hstart, hstop⟩ := bounds_of_spanBetween hspan
  have refused : Buckets.Refused span q.groupBy ↔ q.groupBy.nanos = 0 ∨ q.BadWidth := by
    rw [Buckets.Refused, Query.BadWidth, hstart, hstop]
  unfold groupBuckets WidthDefect
  by_cases hzero : q.groupBy.isZero = true
  · have none : q.groupBy.nanos = 0 := beq_iff_eq.1 hzero
    simp [hzero, none]
  · have some : q.groupBy.nanos ≠ 0 := fun h => hzero (beq_iff_eq.2 h)
    rw [if_neg hzero]
    cases hover : Buckets.over? span q.groupBy with
    | none =>
      have bad : q.BadWidth := (refused.1 ((Buckets.over?_eq_none_iff _ _).1 hover)).resolve_left some
      simp [hq, some, bad, eq_comm]
    | some b =>
      have good : ¬ q.BadWidth := by
        intro bad
        rw [(Buckets.over?_eq_none_iff _ _).2 (refused.2 (.inr bad))] at hover
        exact absurd hover (by simp)
      simp [good]

theorem Groups.unique {span : Interval} {width : Duration} {groups others : List Interval}
    (h : Groups span width groups) (h' : Groups span width others) : groups = others := by
  unfold Groups at h h'
  by_cases hzero : width.isZero = true
  · rw [if_pos hzero] at h h'
    rw [h, h']
  · rw [if_neg hzero] at h h'
    by_cases hempty : span.start = span.stop
    · rw [if_pos hempty] at h h'
      rw [h, h']
    · rw [if_neg hempty] at h h'
      refine Relator.RightUnique.forall₂ ?_ h h'
      rintro k g g' ⟨hstart, hstop, -⟩ ⟨hstart', hstop', -⟩
      exact Interval.eq_of_bounds (hstart.trans hstart'.symm) (hstop.trans hstop'.symm)

theorem ReadOrder.unique {series : List Series} {side : AggregationSide} {q : Query} {s : Selection}
    {xs ys : List Series} (h : ReadOrder series side q s xs) (h' : ReadOrder series side q s ys) :
    xs = ys := by
  unfold ReadOrder at h h'
  split at h
  · rename_i hserver
    rw [if_pos hserver] at h'
    obtain ⟨groups, hgroups, rfl⟩ := h
    obtain ⟨others, hothers, rfl⟩ := h'
    rw [hgroups.unique hothers]
  · rename_i hother
    rw [if_neg hother] at h'
    rw [h, h']

theorem reports_seriesDefect {α : Type} {x : Except PlanError α} {series : List Series}
    {side : AggregationSide} {q : Query} {s : Selection} (xs : List Series)
    (hs : q.selection = .ok s) (hxs : ReadOrder series side q s xs)
    (h : Reports x [Blamed fieldless blameId xs]) : Reports x [SeriesDefect series side q] := by
  intro e
  rw [h e, firstOf_singleton, firstOf_singleton]
  constructor
  · intro hblamed
    exact ⟨s, xs, hs, hxs, hblamed⟩
  · rintro ⟨s', ys, hs', hys, hblamed⟩
    obtain rfl := Except.ok.inj (hs.symm.trans hs')
    rwa [hxs.unique hys]

namespace Dialect
variable (d : Dialect) (aggregation orderBy : String) (bounds : Interval)

theorem select_reports (x : Series) : Reports (d.select aggregation x.table x.id orderBy bounds)
    [fun e => fieldless x = true ∧ e = blameId x] := by
  simp only [fieldless, decide_eq_true_eq, blameId]
  exact (fieldLabel_reports x.id).bind_ok _

theorem selects_report (xs : List Series) :
    Reports (xs.mapM fun x => d.select aggregation x.table x.id orderBy bounds)
      [Blamed fieldless blameId xs] :=
  reports_mapM_self xs fun x _ => d.select_reports aggregation orderBy bounds x

theorem selectsLatest_report (xs : List Series) :
    Reports (xs.mapM fun x => d.selectLatest x.table x.id bounds) [Blamed fieldless blameId xs] := by
  apply reports_mapM_self
  intro x _
  exact (d.select_reports "" d.newestFirst bounds x).bind_ok _

end Dialect

namespace Planner
variable {p : Planner} {series : List Series} {q : Query}

theorem bucketed_reports (hp : p.index = Index.ofList series) (hq : q.HasBuckets)
    (hside : p.side = .server) :
    Reports (p.bucketed q) (q.selectionDefects ++ [WidthDefect q, SeriesDefect series p.side q]) := by
  rw [bucketed_eq hp]
  refine (selection_reports q).bind ?_
  intro s hs
  refine (groupBuckets_reports hq (selection_eq_ok_iff.1 hs).2.2.1).cons_bind ?_
  intro buckets hbuckets
  refine reports_seriesDefect ((buckets.map (·.effective)).flatMap (scan series s)) hs ?_ ?_
  · rw [ReadOrder, if_pos ⟨hq, hside⟩]
    exact ⟨_, groups_of_groupBuckets hbuckets, rfl⟩
  · rw [List.flatMap_map]
    refine (reports_mapM buckets ?_).bind_ok _
    intro b _
    exact (p.dialect.selects_report q.aggregation q.orderBy b.effective _).bind_ok _

theorem folded_reports (hp : p.index = Index.ofList series) (hq : q.HasBuckets)
    (hside : p.side = .client) :
    Reports (p.folded q) (q.selectionDefects ++ [WidthDefect q, SeriesDefect series p.side q]) := by
  unfold folded
  refine (selection_reports q).bind ?_
  intro s hs
  refine (groupBuckets_reports hq (selection_eq_ok_iff.1 hs).2.2.1).cons_bind ?_
  intro buckets hbuckets
  rw [hp, ← scan_eq_accepts]
  refine reports_seriesDefect (scan series s s.span) hs ?_ ?_
  · rw [ReadOrder, if_neg (by simp [hside])]
  · exact (p.dialect.selects_report "" q.orderBy s.span _).bind_ok _

theorem no_widthDefect (hq : ¬ q.HasBuckets) (e : PlanError) : ¬ WidthDefect q e :=
  fun h => hq h.1.1

theorem raw_reports (hp : p.index = Index.ofList series) (hq : ¬ q.HasBuckets) :
    Reports (p.raw q) (q.selectionDefects ++ [WidthDefect q, SeriesDefect series p.side q]) := by
  unfold raw candidates
  refine (selection_reports q).bind ?_
  intro s hs
  rw [hp, ← scan_eq]
  apply Reports.vacuous (no_widthDefect hq)
  refine reports_seriesDefect (scan series s s.span) hs ?_ ?_
  · rw [ReadOrder, if_neg fun h => hq h.1]
  · exact (p.dialect.selects_report "" q.orderBy s.span _).bind_ok _

theorem latest_reports (hp : p.index = Index.ofList series) (hq : q.forEverySpec ≠ "") :
    Reports (p.latest q) (defects series p.side q) := by
  have hbuckets : ¬ q.HasBuckets := fun h => hq h.1
  unfold latest candidates
  have spec : Reports q.forEvery [ForEveryDefect q] := by
    intro e
    rw [Query.forEvery, forEvery_reports q.forEverySpec e, firstOf_singleton, firstOf_singleton,
      ForEveryDefect, and_iff_right hq]
  refine spec.cons_bind ?_
  intro forEvery _
  refine (selection_reports q).bind ?_
  intro s hs
  rw [hp, ← scan_eq]
  apply Reports.vacuous (no_widthDefect hbuckets)
  refine reports_seriesDefect (scan series s s.span) hs ?_ ?_
  · rw [ReadOrder, if_neg fun h => hbuckets h.1]
  · exact (p.dialect.selectsLatest_report s.span _).bind_ok _

theorem plan_cases (p : Planner) (q : Query) :
    (q.forEverySpec ≠ "" ∧ p.plan q = (p.latest q).map .latest) ∨
    (q.forEverySpec = "" ∧ ¬ q.HasBuckets ∧ p.plan q = (p.raw q).map .raw) ∨
    (q.HasBuckets ∧ p.side = .server ∧ p.plan q = (p.bucketed q).map .bucketed) ∨
    (q.HasBuckets ∧ p.side = .client ∧ p.plan q = (p.folded q).map .folded) := by
  unfold plan Query.hasForEvery Query.isAggregated
  by_cases hspec : q.forEverySpec = ""
  · have hplain : q.forEverySpec.isEmpty = true := String.isEmpty_iff.2 hspec
    by_cases haggregation : q.aggregation = ""
    · have hraw : q.aggregation.isEmpty = true := String.isEmpty_iff.2 haggregation
      exact .inr (.inl ⟨hspec, fun h => h.2 haggregation, by simp [hplain, hraw]⟩)
    · have hmade : q.aggregation.isEmpty = false :=
        Bool.eq_false_iff.2 (mt String.isEmpty_iff.1 haggregation)
      cases hside : p.side with
      | server => exact .inr (.inr (.inl ⟨⟨hspec, haggregation⟩, rfl, by simp [hplain, hmade]⟩))
      | client => exact .inr (.inr (.inr ⟨⟨hspec, haggregation⟩, rfl, by simp [hplain, hmade]⟩))
  · have hspecial : q.forEverySpec.isEmpty = false :=
      Bool.eq_false_iff.2 (mt String.isEmpty_iff.1 hspec)
    exact .inl ⟨hspec, by simp [hspecial]⟩

theorem plan_reports (hp : p.index = Index.ofList series) (q : Query) :
    Reports (p.plan q) (defects series p.side q) := by
  rcases plan_cases p q with ⟨hspec, hplan⟩ | ⟨hspec, hq, hplan⟩ | ⟨hq, hside, hplan⟩ |
    ⟨hq, hside, hplan⟩ <;> rw [hplan]
  · exact (latest_reports hp hspec).map _
  · exact Reports.vacuous (fun e h => h.1 hspec) ((raw_reports hp hq).map _)
  · exact Reports.vacuous (fun e h => h.1 hq.1) ((bucketed_reports hp hq hside).map _)
  · exact Reports.vacuous (fun e h => h.1 hq.1) ((folded_reports hp hq hside).map _)

theorem ids_of_entries {d : Dialect} {aggregation orderBy : String} {s : Selection}
    {buckets : List Bucket} {entries : List BucketStatements}
    (h : List.Forall₂ (fun b e => e.interval = b.effective ∧
      d.Reads aggregation orderBy b.effective (scan series s b.effective) e.statements)
      buckets entries) :
    (entries.flatMap (·.statements)).map (·.seriesId) =
      ((buckets.map (·.effective)).flatMap (scan series s)).map (·.id) := by
  induction h with
  | nil => rfl
  | cons hentry _ ih =>
    rw [List.flatMap_cons, List.map_append, ih, List.map_cons, List.flatMap_cons, List.map_append,
      Dialect.ids_of_reads hentry.2]

theorem ids_of_plan (hp : p.index = Index.ofList series) {plan : Plan} (h : p.plan q = .ok plan) :
    ∃ s xs, q.selection = .ok s ∧ ReadOrder series p.side q s xs ∧
      plan.statements.map (·.seriesId) = xs.map (·.id) := by
  rcases plan_cases p q with ⟨hspec, hplan⟩ | ⟨-, hq, hplan⟩ | ⟨hq, hside, hplan⟩ |
    ⟨hq, hside, hplan⟩ <;> rw [hplan] at h
  · obtain ⟨latest, hlatest, rfl⟩ := map_eq_ok_iff.1 h
    obtain ⟨s, -, hs, -, hreads⟩ := (latest_eq_ok_iff hp).1 hlatest
    refine ⟨s, scan series s s.span, hs, ?_, Dialect.ids_of_readsLatest hreads⟩
    rw [ReadOrder, if_neg fun hboth => hspec hboth.1.1]
  · obtain ⟨raw, hraw, rfl⟩ := map_eq_ok_iff.1 h
    obtain ⟨s, hs, -, -, hreads⟩ := (raw_eq_ok_iff hp).1 hraw
    refine ⟨s, scan series s s.span, hs, ?_, Dialect.ids_of_reads hreads⟩
    rw [ReadOrder, if_neg fun hboth => hq hboth.1]
  · obtain ⟨bucketed, hbucketed, rfl⟩ := map_eq_ok_iff.1 h
    obtain ⟨s, buckets, hs, hbuckets, -, hentries⟩ := (bucketed_eq_ok_iff hp).1 hbucketed
    refine ⟨s, (buckets.map Bucket.effective).flatMap (scan series s), hs, ?_,
      ids_of_entries hentries⟩
    rw [ReadOrder, if_pos ⟨hq, hside⟩]
    exact ⟨_, groups_of_groupBuckets hbuckets, rfl⟩
  · obtain ⟨folded, hfolded, rfl⟩ := map_eq_ok_iff.1 h
    obtain ⟨s, buckets, hs, -, -, -, -, -, -, hreads⟩ := (folded_eq_ok_iff hp).1 hfolded
    refine ⟨s, scan series s s.span, hs, ?_, Dialect.ids_of_reads hreads⟩
    rw [ReadOrder, if_neg (by simp [hside])]

end Planner

section Blame
variable {series : List Series} {side : AggregationSide} {q : Query}

theorem ReadOrder.measurement_eq {s : Selection} {xs : List Series}
    (h : ReadOrder series side q s xs) {x : Series} (hx : x ∈ xs) : x.measurement = s.measurement := by
  unfold ReadOrder at h
  split at h
  · obtain ⟨groups, -, rfl⟩ := h
    obtain ⟨g, -, hg⟩ := List.mem_flatMap.1 hx
    exact (mem_scan_iff.1 hg).2.1
  · rw [h] at hx
    exact (mem_scan_iff.1 hx).2.1

theorem selectionDefects_blame_no_id (id : String) (fault : SeriesIdFault) :
    ∀ check ∈ q.selectionDefects, ¬ check (.seriesId id fault) := by
  have terms : ¬ Blamed badTerm PlanError.tagTerm q.tagSets.flatten (.seriesId id fault) := by
    intro h
    obtain ⟨term, -, hterm⟩ := Option.map_eq_some_iff.1 h
    cases hterm
  simp [Query.selectionDefects, terms]

theorem read_of_blamed {id : String} {fault : SeriesIdFault}
    (h : FirstOf (defects series side q) (.seriesId id fault)) :
    ∃ s xs, q.selection = .ok s ∧ ReadOrder series side q s xs ∧
      ∃ x ∈ xs, x.id = id ∧ x.measurement = q.measurementName := by
  obtain ⟨check, hcheck, hfound⟩ := exists_of_firstOf h
  simp only [defects, List.mem_cons, List.mem_append, List.not_mem_nil, or_false] at hcheck
  rcases hcheck with rfl | hcheck | rfl | rfl
  · cases hfound.2
  · exact absurd hfound (selectionDefects_blame_no_id id fault check hcheck)
  · exact absurd hfound.2 (by simp)
  · obtain ⟨s, xs, hs, hxs, hblamed⟩ := hfound
    obtain ⟨x, hfind, hx⟩ := Option.map_eq_some_iff.1 hblamed
    cases hx
    have hmem := List.mem_of_find?_eq_some hfind
    refine ⟨s, xs, hs, hxs, x, hmem, rfl, ?_⟩
    have hmeasurement := (selection_eq_ok_iff.1 hs).1
    unfold Query.measurement at hmeasurement
    split at hmeasurement
    · exact absurd hmeasurement (by simp)
    · rw [hxs.measurement_eq hmem, Except.ok.inj hmeasurement]

theorem defects_of_label {label : String} (hlabel : label ≠ "") (haggregation : q.aggregation ≠ "") :
    defects series side { q with aggregation := label } = defects series side q := by
  have buckets : ({ q with aggregation := label } : Query).HasBuckets ↔ q.HasBuckets := by
    simp [Query.HasBuckets, hlabel, haggregation]
  have width : WidthDefect { q with aggregation := label } = WidthDefect q := by
    funext e
    unfold WidthDefect
    rw [buckets]
    rfl
  have ids : SeriesDefect series side { q with aggregation := label } =
      SeriesDefect series side q := by
    funext e
    unfold SeriesDefect ReadOrder
    simp only [buckets]
    rfl
  unfold defects
  rw [width, ids]
  rfl

end Blame

example : edgePlanner.plan { edgeQuery with
    fieldNames := "", timeEnd := Instant.epoch, tagSets := [["host=a", "=b"]] } =
      .error .noField := rfl

end SeriesBench
