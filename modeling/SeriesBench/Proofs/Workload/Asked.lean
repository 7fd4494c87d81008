import SeriesBench.Proofs.Success
import SeriesBench.Proofs.Workload.Sampler
import SeriesBench.Workload.Registry

set_option autoImplicit false

namespace SeriesBench
open SeriesBench.Time SeriesBench.Random

def DevopsQuery.metricCount : DevopsQuery → Nat
  | .singleGroupby metrics _ _ => metrics
  | .maxAll _ _ => cpuMetrics.length
  | .doubleGroupby metrics => metrics
  | .groupbyOrderbyLimit => 1
  | .highCpu _ => cpuMetrics.length
  | .lastpoint => cpuMetrics.length

def DevopsQuery.hostCount (scale : Nat) : DevopsQuery → Nat
  | .singleGroupby _ hosts _ => hosts
  | .maxAll hosts _ => hosts
  | .doubleGroupby _ => scale
  | .groupbyOrderbyLimit => scale
  | .highCpu hosts => if hosts = 0 then scale else hosts
  | .lastpoint => scale

/-- A query without host ids is for all hosts. -/
structure Query.Asks (q : Query) (d : Dataset) (metrics : Nat) (ids : List Nat) : Prop where
  measurement_eq : q.measurementName = cpuMeasurement
  metrics_pos : 0 < metrics
  metrics_le : metrics ≤ cpuMetrics.length
  fields_eq : q.fieldNames = String.intercalate "," (cpuMetrics.take metrics)
  window : d.Holds q.timeStart q.timeEnd
  tagSets_eq : q.tagSets = hostTagSets (ids.map Host.hostname)
  nodup_ids : ids.Nodup
  ids_lt : ∀ id ∈ ids, id < d.scale
  width : q.isAggregated = true → q.groupBy = Cassandra.minute ∨ q.groupBy = Cassandra.hour
  forEvery : q.hasForEvery = true → ∃ spec, q.forEvery = .ok spec

def Query.AsksFor (q : Query) (d : Dataset) (metrics hosts : Nat) : Prop :=
  ∃ ids, q.Asks d metrics ids ∧ hosts = if ids.isEmpty then d.scale else ids.length

namespace Cassandra
variable {d : Dataset} {α : Type}

def Ready (d : Dataset) (st : Query × Sampler) : Prop := st.1 = Query.blank ∧ d.Serves st.2

theorem runs_sampling {x : Sampling α} {P : α → Prop}
    (hx : Runs d.Serves x (fun a s => P a ∧ d.Serves s) d.Serves) :
    Runs (Ready d) (sampling x) (fun a st => P a ∧ Ready d st) (fun st => d.Serves st.2) := by
  rintro ⟨q, s⟩ ⟨hq, hs⟩
  obtain ⟨hok, herror⟩ := hx s hs
  refine ⟨?_, herror⟩
  intro a ha
  exact ⟨(hok a ha).1, hq, (hok a ha).2⟩

theorem runs_chooseMetrics (count : Nat) : Runs (Ready d) (chooseMetrics count)
    (fun metrics st => (0 < count ∧ count ≤ cpuMetrics.length ∧ metrics = cpuMetrics.take count) ∧
      Ready d st) (fun st => d.Serves st.2) := by
  unfold chooseMetrics firstMetrics
  by_cases hcount : 0 < count ∧ count ≤ cpuMetrics.length
  · rw [if_pos hcount]
    exact Runs.pure fun st hst => ⟨⟨hcount.1, hcount.2, rfl⟩, hst⟩
  · rw [if_neg hcount]
    exact Runs.throw fun st hst => hst.2

theorem runs_fill {label aggregation : String} {metrics : Nat} {window : Instant × Instant}
    {groupBy : Duration} {ids : List Nat} (hpos : 0 < metrics)
    (hle : metrics ≤ cpuMetrics.length) (hwindow : d.Holds window.1 window.2) (hids : ids.Nodup)
    (hlt : ∀ id ∈ ids, id < d.scale)
    (hwidth : (!aggregation.isEmpty) = true → groupBy = minute ∨ groupBy = hour) :
    Runs (Ready d) (fill label (cpuMetrics.take metrics) aggregation window groupBy
        (hostTagSets (ids.map Host.hostname)))
      (fun _ st => st.1.Asks d metrics ids ∧ d.Serves st.2) (fun st => d.Serves st.2) := by
  apply Runs.modifyGet
  rintro ⟨q, s⟩ ⟨rfl, hs⟩
  have hspec : Query.blank.hasForEvery = false := rfl
  refine ⟨⟨rfl, hpos, hle, rfl, hwindow, rfl, hids, hlt, hwidth, ?_⟩, hs⟩
  intro h
  exact absurd (hspec.symm.trans h) (by simp)

theorem runs_fill_all {label aggregation : String} {window : Instant × Instant}
    {groupBy : Duration} {ids : List Nat} (hwindow : d.Holds window.1 window.2) (hids : ids.Nodup)
    (hlt : ∀ id ∈ ids, id < d.scale)
    (hwidth : (!aggregation.isEmpty) = true → groupBy = minute ∨ groupBy = hour) :
    Runs (Ready d) (fill label cpuMetrics aggregation window groupBy
        (hostTagSets (ids.map Host.hostname)))
      (fun _ st => st.1.Asks d cpuMetrics.length ids ∧ d.Serves st.2)
      (fun st => d.Serves st.2) := by
  have h : Runs (Ready d) (fill label (cpuMetrics.take cpuMetrics.length) aggregation window groupBy
      (hostTagSets (ids.map Host.hostname))) (fun _ st => st.1.Asks d cpuMetrics.length ids ∧
        d.Serves st.2) (fun st => d.Serves st.2) :=
    runs_fill (by decide) (Nat.le_refl _) hwindow hids hlt hwidth
  rwa [List.take_length] at h

theorem runs_edit {f : Query → Query} {metrics : Nat} {ids : List Nat}
    (hf : ∀ q : Query, q.Asks d metrics ids → (f q).Asks d metrics ids) :
    Runs (fun st => st.1.Asks d metrics ids ∧ d.Serves st.2) (edit f)
      (fun _ st => st.1.Asks d metrics ids ∧ d.Serves st.2) (fun st => d.Serves st.2) := by
  apply Runs.modifyGet
  rintro ⟨q, s⟩ ⟨hq, hs⟩
  exact ⟨hf q hq, hs⟩

def Fills (d : Dataset) (metrics hosts : Nat) (x : Filling Sampler Unit) : Prop :=
  Runs (Ready d) x (fun _ st => st.1.AsksFor d metrics hosts ∧ d.Serves st.2)
    (fun st => d.Serves st.2)

theorem Fills.of_asks {x : Filling Sampler Unit} {metrics : Nat} {ids : List Nat}
    (h : Runs (Ready d) x (fun _ st => st.1.Asks d metrics ids ∧ d.Serves st.2)
      (fun st => d.Serves st.2)) {hosts : Nat}
    (hhosts : hosts = if ids.isEmpty then d.scale else ids.length) : Fills d metrics hosts x :=
  h.imp (fun _ hst => hst) fun _ _ hst => ⟨⟨ids, hst.1, hhosts⟩, hst.2⟩

theorem hosts_of_none (d : Dataset) :
    d.scale = if ([] : List Nat).isEmpty then d.scale else ([] : List Nat).length := rfl

theorem length_of_distinct {hosts : Nat} {ids : List Nat} (hpos : 0 < hosts)
    (hids : Distinct d.scale hosts ids) :
    hosts = if ids.isEmpty then d.scale else ids.length := by
  have hlength := hids.length_eq
  cases ids with
  | nil =>
    rw [List.length_nil] at hlength
    omega
  | cons id ids => exact hlength.symm

section Fillers
variable (hstart : d.start.isLeap = false) (hstop : d.stop.isLeap = false)
include hstart hstop

theorem fills_groupByTime (hosts metrics : Nat) (window : Duration) :
    Fills d metrics hosts (groupByTime hosts metrics window) := by
  unfold groupByTime
  apply Runs.bind (runs_chooseMetrics metrics)
  intro names
  apply Runs.fact
  rintro ⟨hpos, hle, rfl⟩
  apply Runs.bind (runs_sampling (Sampler.runs_hosts hosts))
  intro chosen
  apply Runs.fact
  rintro ⟨hhosts, ids, hids, rfl⟩
  apply Runs.bind (runs_sampling (Sampler.runs_window hstart hstop window))
  intro span
  apply Runs.fact
  intro hspan
  apply Fills.of_asks _ (length_of_distinct hhosts hids)
  exact runs_fill hpos hle hspan hids.nodup hids.lt fun _ => .inl rfl

theorem fills_maxOfAll (hosts : Nat) (window : Duration) :
    Fills d cpuMetrics.length hosts (maxOfAll hosts window) := by
  unfold maxOfAll
  apply Runs.bind (runs_sampling (Sampler.runs_hosts hosts))
  intro chosen
  apply Runs.fact
  rintro ⟨hhosts, ids, hids, rfl⟩
  apply Runs.bind (runs_sampling (Sampler.runs_window hstart hstop window))
  intro span
  apply Runs.fact
  intro hspan
  apply Fills.of_asks _ (length_of_distinct hhosts hids)
  exact runs_fill_all hspan hids.nodup hids.lt fun _ => .inr rfl

theorem fills_groupByTimeAndHost (metrics : Nat) :
    Fills d metrics d.scale (groupByTimeAndHost metrics) := by
  unfold groupByTimeAndHost
  apply Runs.bind (runs_chooseMetrics metrics)
  intro names
  apply Runs.fact
  rintro ⟨hpos, hle, rfl⟩
  apply Runs.bind (runs_sampling (Sampler.runs_window hstart hstop _))
  intro span
  apply Runs.fact
  intro hspan
  have none : ∀ id ∈ ([] : List Nat), id < d.scale := by simp
  refine Fills.of_asks ?_ (hosts_of_none d)
  exact runs_fill hpos hle hspan .nil none fun _ => .inr rfl

theorem fills_latestMaxima : Fills d 1 d.scale latestMaxima := by
  unfold latestMaxima
  apply Runs.bind (runs_sampling (Sampler.runs_window hstart hstop _))
  intro span
  apply Runs.fact
  intro hspan
  have none : ∀ id ∈ ([] : List Nat), id < d.scale := by simp
  refine Fills.of_asks ?_ (hosts_of_none d)
  apply Runs.bind (runs_fill (by decide) (by decide) hspan .nil none fun _ => .inl rfl)
  intro _
  apply runs_edit
  intro q hq
  exact { hq with }

theorem fills_highCpu (hosts : Nat) :
    Fills d cpuMetrics.length (if hosts = 0 then d.scale else hosts) (highCpu hosts) := by
  unfold highCpu
  have drawn : Runs (Ready d) (if hosts = 0 then pure [] else sampling (Sampler.hosts hosts))
      (fun names st => (∃ ids : List Nat, names = ids.map Host.hostname ∧ ids.Nodup ∧
        (∀ id ∈ ids, id < d.scale) ∧
        (if hosts = 0 then d.scale else hosts) = if ids.isEmpty then d.scale else ids.length) ∧
        Ready d st) (fun st => d.Serves st.2) := by
    by_cases hzero : hosts = 0
    · rw [if_pos hzero, if_pos hzero]
      exact Runs.pure fun st hst => ⟨⟨[], rfl, .nil, by simp, rfl⟩, hst⟩
    · rw [if_neg hzero, if_neg hzero]
      apply (runs_sampling (Sampler.runs_hosts hosts)).imp (fun _ hst => hst)
      rintro names st ⟨⟨hhosts, ids, hids, rfl⟩, hst⟩
      exact ⟨⟨ids, rfl, hids.nodup, hids.lt, length_of_distinct hhosts hids⟩, hst⟩
  apply Runs.ite_bind drawn
  intro names
  apply Runs.fact
  rintro ⟨ids, rfl, hids, hlt, hlength⟩
  apply Runs.bind (runs_sampling (Sampler.runs_window hstart hstop _))
  intro span
  apply Runs.fact
  intro hspan
  apply Fills.of_asks _ hlength
  apply Runs.bind (runs_fill_all hspan hids hlt fun h => absurd h (by decide))
  intro _
  apply runs_edit
  intro q hq
  exact { hq with }

theorem fills_lastPoint (horder : d.start < d.stop) :
    Fills d cpuMetrics.length d.scale lastPoint := by
  unfold lastPoint
  apply Runs.bind Runs.get
  rintro ⟨q, s⟩
  apply Runs.fact
  rintro ⟨-, hs, ht, -⟩
  have hlt := (Instant.lt_iff_unixNanos hstart hstop).1 horder
  have hspan : d.Holds s.start s.stop := by
    rw [hs, ht]
    exact ⟨hstart, hstop, Int.le_refl _, by omega, Int.le_refl _⟩
  refine Fills.of_asks ?_ (hosts_of_none d)
  have none : ∀ id ∈ ([] : List Nat), id < d.scale := by simp
  apply Runs.bind (runs_fill_all hspan .nil none fun h => absurd h (by decide))
  intro _
  apply runs_edit
  intro q hq
  have hspec : ForEvery.read (hostnameTag ++ ",1") = .ok ⟨hostnameTag, 1⟩ := by decide
  exact { hq with forEvery := fun _ => ⟨_, hspec⟩ }

theorem fills_devops (horder : d.start < d.stop) (query : DevopsQuery) :
    Fills d query.metricCount (query.hostCount d.scale) (query.fill queries) := by
  cases query with
  | singleGroupby metrics hosts hours =>
    rw [DevopsQuery.fill]
    by_cases hhours : hours.toNat * 3600 < UInt64.size
    · rw [if_pos hhours]
      exact fills_groupByTime hstart hstop hosts metrics _
    · rw [if_neg hhours]
      exact Runs.throw fun st hst => hst.2
  | maxAll hosts window => exact fills_maxOfAll hstart hstop hosts window
  | doubleGroupby metrics => exact fills_groupByTimeAndHost hstart hstop metrics
  | groupbyOrderbyLimit => exact fills_latestMaxima hstart hstop
  | highCpu hosts => exact fills_highCpu hstart hstop hosts
  | lastpoint => exact fills_lastPoint hstart hstop horder

end Fillers

end Cassandra
namespace QueryGenerator

section Take
variable {σ : Type} {g : QueryGenerator σ}

theorem take_of_broken (h : g.next.1 = .error .broken) (n : Nat) :
    g.take (n + 1) = ([.error .broken], g.next.2) := by
  rw [take]
  generalize g.next = r at h
  obtain ⟨_, g'⟩ := r
  cases h
  rfl

theorem take_of_not_broken (h : g.next.1 ≠ .error .broken) (n : Nat) :
    g.take (n + 1) = (g.next.1 :: (g.next.2.take n).1, (g.next.2.take n).2) := by
  rw [take]
  generalize g.next = r at h
  obtain ⟨(e | _) | q, g'⟩ := r
  · rfl
  · exact absurd rfl h
  · rfl

end Take

/-- A generator of queries of the type, after any number of calls. -/
structure Asking (d : Dataset) (query : DevopsQuery) (g : QueryGenerator Sampler) : Prop where
  query_eq : g.query = .devops query Cassandra.queries
  serves : d.Serves g.state

section Queries
variable {d : Dataset} {query : DevopsQuery} {g : QueryGenerator Sampler} {P : Query → Prop}
  (hid : ∀ q id, P q → P { q with id })
  (hruns : Runs (Cassandra.Ready d) (query.fill Cassandra.queries)
    (fun _ st => P st.1 ∧ d.Serves st.2) (fun st => d.Serves st.2))
include hid hruns

theorem asking_next (hg : g.Asking d query) :
    g.next.2.Asking d query ∧ ∀ q, g.next.1 = .ok q → P q := by
  have fill : g.query.fill = query.fill Cassandra.queries := by rw [hg.query_eq]; rfl
  obtain ⟨hok, herror⟩ := hruns (Query.blank, g.state) ⟨rfl, hg.serves⟩
  rw [← fill] at hok herror
  unfold next
  generalize g.query.fill.run (Query.blank, g.state) = r at hok herror
  obtain ⟨r, q, s⟩ := r
  cases r with
  | ok a =>
    obtain ⟨hq, hs⟩ := hok a rfl
    dsimp only
    split
    · refine ⟨⟨hg.query_eq, hs⟩, ?_⟩
      intro q' hq'
      cases hq'
      exact hid q g.nextId hq
    · refine ⟨⟨hg.query_eq, hs⟩, ?_⟩
      intro q' hq'
      cases hq'
  | error e =>
    refine ⟨⟨hg.query_eq, herror e rfl⟩, ?_⟩
    intro q' hq'
    cases hq'

/-- What filling in a query gives it, all queries of a run have. -/
theorem of_mem_take (n : Nat) (hg : g.Asking d query) {q : Query} (hq : .ok q ∈ (g.take n).1) :
    P q := by
  induction n generalizing g with
  | zero => exact absurd hq (by simp [take])
  | succ n ih =>
    obtain ⟨hnext, hfirst⟩ := asking_next hid hruns hg
    by_cases hbroken : g.next.1 = .error .broken
    · rw [take_of_broken hbroken] at hq
      exact absurd hq (by simp)
    · rw [take_of_not_broken hbroken] at hq
      rcases List.mem_cons.1 hq with hq | hq
      · exact hfirst q hq.symm
      · exact ih hnext hq

end Queries

theorem asks_of_mem_take {d : Dataset} (hstart : d.start.isLeap = false)
    (hstop : d.stop.isLeap = false) (horder : d.start < d.stop) {query : DevopsQuery}
    {g : QueryGenerator Sampler} (n : Nat) (hg : g.Asking d query) {q : Query}
    (hq : .ok q ∈ (g.take n).1) : q.AsksFor d query.metricCount (query.hostCount d.scale) := by
  refine of_mem_take (P := fun q => q.AsksFor d query.metricCount (query.hostCount d.scale)) ?_
    (Cassandra.fills_devops hstart hstop horder query) n hg hq
  rintro q id ⟨ids, hasks, hhosts⟩
  exact ⟨ids, { hasks with }, hhosts⟩

theorem asking_of_openQuery {d : Dataset} {query : DevopsQuery} {state : Sampler}
    {opened : OpenQuery Sampler}
    (h : Registry.openQuery Cassandra.backend (.devops query) d = .ok (state, opened))
    (name : String) (id : UInt64) :
    (QueryGenerator.mk name opened state id).Asking d query := by
  change ((Sampler.ofDataset d).map fun s => (s, Cassandra.queries)).map
    (fun p => (p.1, OpenQuery.devops query p.2)) = .ok (state, opened) at h
  obtain ⟨p, hp, hopened⟩ := map_eq_ok_iff.1 h
  obtain ⟨s, hs, rfl⟩ := map_eq_ok_iff.1 hp
  cases hopened
  exact ⟨rfl, Sampler.serves_ofDataset hs⟩

end QueryGenerator
end SeriesBench
