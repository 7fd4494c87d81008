import SeriesBench.Proofs.Plan.Scan

set_option autoImplicit false

namespace SeriesBench
open SeriesBench.Time

/-- What a statement reads and what for, however it is put. -/
def Statement.reading (s : Statement) : String × Interval × String := (s.seriesId, s.bounds, s.field)

namespace Dialect
variable {d : Dialect} {table id : String} {bounds : Interval}

theorem selectLatest_eq_ok_iff {statement : Statement} :
    d.selectLatest table id bounds = .ok statement ↔
      fieldLabel id = .ok statement.field ∧
      statement.template = d.template "" table (d.timeColumn ++ " DESC") ++ " LIMIT 1" ∧
      statement.seriesId = id ∧ statement.bounds = bounds := by
  simp only [selectLatest, bind_eq_ok_iff, select_eq_ok_iff, pure, Except.pure, Except.ok.injEq]
  constructor
  · rintro ⟨whole, ⟨hfield, htemplate, hid, hbounds⟩, rfl⟩
    exact ⟨hfield, by rw [htemplate]; rfl, hid, hbounds⟩
  · rintro ⟨hfield, htemplate, hid, hbounds⟩
    refine ⟨⟨d.template "" table d.newestFirst, id, bounds, statement.field⟩,
      ⟨hfield, rfl, rfl, rfl⟩, ?_⟩
    rw [← hid, ← hbounds]
    exact congrArg (fun t => Statement.mk t _ _ _) htemplate.symm

/-- Statements with a label for each series can be put in any order of rows. -/
theorem exists_reads_as {R : Series → Statement → Prop} {xs : List Series}
    {statements : List Statement} (h : List.Forall₂ R xs statements)
    (hR : ∀ x s, R x s → fieldLabel x.id = .ok s.field ∧ s.seriesId = x.id ∧ s.bounds = bounds)
    (d : Dialect) (orderBy : String) : ∃ rows, d.Reads "" orderBy bounds xs rows ∧
      List.Forall₂ (fun s t => s.reading = t.reading ∧
        ∃ x, R x s ∧ t.template = d.template "" x.table orderBy) statements rows := by
  induction h with
  | nil => exact ⟨[], .nil, .nil⟩
  | @cons x s xs statements hs _ ih =>
    obtain ⟨hfield, hid, hbounds⟩ := hR x s hs
    obtain ⟨rows, hrows, hsame⟩ := ih
    refine ⟨⟨d.template "" x.table orderBy, x.id, bounds, s.field⟩ :: rows,
      .cons (select_eq_ok_iff.2 ⟨hfield, rfl, rfl, rfl⟩) hrows, .cons ⟨?_, x, hs, rfl⟩ hsame⟩
    simp only [Statement.reading, hid, hbounds]

theorem reads_of_readsLatest {xs : List Series} {latest : List Statement}
    (h : d.ReadsLatest bounds xs latest) (orderBy : String) :
    ∃ rows, d.Reads "" orderBy bounds xs rows ∧ rows.map (·.reading) = latest.map (·.reading) := by
  have labelled : ∀ (x : Series) (s : Statement), d.selectLatest x.table x.id bounds = .ok s →
      fieldLabel x.id = .ok s.field ∧ s.seriesId = x.id ∧ s.bounds = bounds := by
    intro x s hs
    obtain ⟨hfield, -, hid, hbounds⟩ := selectLatest_eq_ok_iff.1 hs
    exact ⟨hfield, hid, hbounds⟩
  obtain ⟨rows, hrows, hsame⟩ := exists_reads_as h labelled d orderBy
  refine ⟨rows, hrows, ?_⟩
  rw [← List.forall₂_eq_eq_eq, List.forall₂_map_left_iff, List.forall₂_map_right_iff]
  exact hsame.flip.imp fun t s hst => hst.1.symm

end Dialect

namespace Planner
variable {p : Planner} {series : List Series} {q : Query}

theorem exists_raw_of_reads (hp : p.index = Index.ofList series) {s : Selection}
    (hs : q.selection = .ok s) {statements : List Statement}
    (h : p.dialect.Reads "" q.orderBy s.span (scan series s s.span) statements) :
    ∃ rows, p.raw q = .ok rows ∧ rows.statements = statements :=
  ⟨⟨s.fields, q.whereClause, statements⟩, (raw_eq_ok_iff hp).2 ⟨s, hs, rfl, rfl, h⟩, rfl⟩

/-- Whichever of the three plans a query has, its statements are those of a scan of the span: as
they stand if the rows are folded or handed on, so that these two plans agree, and cut down to the
newest row if that is all that is wanted. -/
theorem shapes_eq_scan (hp : p.index = Index.ofList series) :
    (∀ plan, p.folded q = .ok plan → ∃ s, q.selection = .ok s ∧
      p.dialect.Reads "" q.orderBy s.span (scan series s s.span) plan.statements ∧
      ∃ rows, p.raw q = .ok rows ∧ rows.statements = plan.statements) ∧
    (∀ plan, p.raw q = .ok plan → ∃ s, q.selection = .ok s ∧
      p.dialect.Reads "" q.orderBy s.span (scan series s s.span) plan.statements) ∧
    (∀ plan, p.latest q = .ok plan → ∃ s, q.selection = .ok s ∧
      List.Forall₂ (fun x statement => statement.seriesId = x.id ∧ statement.bounds = s.span ∧
        fieldLabel x.id = .ok statement.field ∧ statement.template =
          p.dialect.template "" x.table (p.dialect.timeColumn ++ " DESC") ++ " LIMIT 1")
        (scan series s s.span) plan.statements ∧
      ∃ rows, p.raw q = .ok rows ∧
        rows.statements.map (·.reading) = plan.statements.map (·.reading)) := by
  refine ⟨?_, ?_, ?_⟩
  · intro plan h
    obtain ⟨s, buckets, hs, -, -, -, -, -, -, hreads⟩ := (folded_eq_ok_iff hp).1 h
    exact ⟨s, hs, hreads, exists_raw_of_reads hp hs hreads⟩
  · intro plan h
    obtain ⟨s, hs, -, -, hreads⟩ := (raw_eq_ok_iff hp).1 h
    exact ⟨s, hs, hreads⟩
  · intro plan h
    obtain ⟨s, -, hs, -, hlatest⟩ := (latest_eq_ok_iff hp).1 h
    refine ⟨s, hs, hlatest.imp ?_, ?_⟩
    · intro x statement hx
      obtain ⟨hfield, htemplate, hid, hbounds⟩ := Dialect.selectLatest_eq_ok_iff.1 hx
      exact ⟨hid, hbounds, hfield, htemplate⟩
    · obtain ⟨statements, hreads, hreading⟩ := Dialect.reads_of_readsLatest hlatest q.orderBy
      obtain ⟨rows, hrows, heq⟩ := exists_raw_of_reads hp hs hreads
      exact ⟨rows, hrows, heq ▸ hreading⟩

end Planner

def edgeLatest : Query := { edgeQuery with forEverySpec := "host,1" }

theorem edgeLatest_eq_scan : ∃ folded raw latest,
    edgePlanner.folded edgeLatest = .ok folded ∧ edgePlanner.raw edgeLatest = .ok raw ∧
    edgePlanner.latest edgeLatest = .ok latest ∧
    (∃ s, edgeLatest.selection = .ok s ∧
      edgePlanner.dialect.Reads "" edgeLatest.orderBy s.span (scan edgeSeries s s.span)
        folded.statements ∧
      ∃ rows, edgePlanner.raw edgeLatest = .ok rows ∧ rows.statements = folded.statements) ∧
    (∃ s, edgeLatest.selection = .ok s ∧
      edgePlanner.dialect.Reads "" edgeLatest.orderBy s.span (scan edgeSeries s s.span)
        raw.statements) ∧
    ∃ s, edgeLatest.selection = .ok s ∧
      List.Forall₂ (fun x statement => statement.seriesId = x.id ∧ statement.bounds = s.span ∧
        fieldLabel x.id = .ok statement.field ∧ statement.template =
          edgePlanner.dialect.template "" x.table "timestamp_ns DESC" ++ " LIMIT 1")
        (scan edgeSeries s s.span) latest.statements ∧
      ∃ rows, edgePlanner.raw edgeLatest = .ok rows ∧
        rows.statements.map (·.reading) = latest.statements.map (·.reading) := by
  have index : edgePlanner.index = Index.ofList edgeSeries := rfl
  have shapes := Planner.shapes_eq_scan (q := edgeLatest) index
  exact ⟨_, _, _, rfl, rfl, rfl, shapes.1 _ rfl, shapes.2.1 _ rfl, shapes.2.2 _ rfl⟩

end SeriesBench
