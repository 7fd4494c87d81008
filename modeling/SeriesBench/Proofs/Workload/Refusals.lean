import SeriesBench.Proofs.Failure
import SeriesBench.Proofs.Workload.Asked

set_option autoImplicit false

/-!
# Queries that are refused

Hosts are drawn before the window is looked at, so an attempt that fails may have moved its sampler
on. Still the type of query and the dataset alone decide whether an attempt fails, and no query is
written before everything has been looked at.
-/
namespace SeriesBench
open SeriesBench.Time SeriesBench.Random

section
variable {σ α β : Type}

/-- A run from a state with `pre` fails just when a check finds an error, with that of the first
check that does. If there is a `risk`, it may also break where no check finds anything. -/
structure Checked (risk : Prop) (pre : σ → Prop) (x : ExceptT Failure (StateM σ) α)
    (post : α → σ → Prop) (failed : σ → Prop) (checks : List (Failure → Prop)) : Prop where
  runs : Runs pre x post failed
  reports : ∀ s, pre s → Reports (x.run s).1 checks ∨
    risk ∧ (∀ e, ¬ FirstOf checks e) ∧ (x.run s).1 = .error .broken

namespace Checked
variable {risk : Prop} {pre : σ → Prop} {x : ExceptT Failure (StateM σ) α} {mid post : α → σ → Prop}
  {failed : σ → Prop} {check : Failure → Prop} {checks more : List (Failure → Prop)}

theorem result_bind (x : ExceptT Failure (StateM σ) α) (f : α → ExceptT Failure (StateM σ) β)
    (s : σ) : ((x >>= f).run s).1 = (x.run s).1 >>= fun a => ((f a).run (x.run s).2).1 := by
  rw [run_bind]
  generalize x.run s = r
  obtain ⟨r, t⟩ := r
  cases r <;> rfl

/-- What may break comes after what does not. -/
theorem bind {f : α → ExceptT Failure (StateM σ) β} {last : β → σ → Prop}
    (hx : Checked False pre x mid failed checks)
    (hf : ∀ a, Checked risk (mid a) (f a) last failed more) :
    Checked risk pre (x >>= f) last failed (checks ++ more) := by
  refine ⟨hx.runs.bind fun a => (hf a).runs, ?_⟩
  intro s hs
  have first := (hx.reports s hs).resolve_right fun h => h.1
  have hmid := (hx.runs s hs).1
  rw [result_bind]
  generalize x.run s = r at first hmid
  obtain ⟨r, t⟩ := r
  cases r with
  | error e => exact .inl (first.bind fun a ha => absurd ha (by simp))
  | ok a =>
    rcases (hf a).reports t (hmid a rfl) with h | ⟨hrisk, hnone, h⟩
    · refine .inl (first.bind ?_)
      intro b hb
      cases hb
      exact h
    · refine .inr ⟨hrisk, ?_, h⟩
      intro e he
      rcases firstOf_append.1 he with he | ⟨-, he⟩
      · exact absurd ((first e).2 he) (by simp)
      · exact hnone e he

/-- Nothing is looked at after what may break. -/
theorem bind_sure {f : α → ExceptT Failure (StateM σ) β} {last : β → σ → Prop}
    (hx : Checked risk pre x mid failed checks)
    (hf : ∀ a, Checked False (mid a) (f a) last failed []) :
    Checked risk pre (x >>= f) last failed checks := by
  refine ⟨hx.runs.bind fun a => (hf a).runs, ?_⟩
  intro s hs
  have hmid := (hx.runs s hs).1
  rw [result_bind]
  rcases hx.reports s hs with first | ⟨hrisk, hnone, h⟩
  · rw [← List.append_nil checks]
    refine .inl (first.bind ?_)
    intro a ha
    exact ((hf a).reports _ (hmid a ha)).resolve_right fun h => h.1
  · exact .inr ⟨hrisk, hnone, by rw [h]; rfl⟩

theorem ite_bind {p : Prop} [Decidable p] {y : ExceptT Failure (StateM σ) α}
    {f : α → ExceptT Failure (StateM σ) β} {last : β → σ → Prop}
    (hxy : Checked False pre (if p then x else y) mid failed checks)
    (hf : ∀ a, Checked risk (mid a) (f a) last failed more) :
    Checked risk pre (if p then x >>= f else y >>= f) last failed (checks ++ more) := by
  by_cases hp : p
  · rw [if_pos hp] at hxy ⊢
    exact hxy.bind hf
  · rw [if_neg hp] at hxy ⊢
    exact hxy.bind hf

theorem fact {p : Prop} (hx : p → Checked risk pre x post failed checks) :
    Checked risk (fun s => p ∧ pre s) x post failed checks :=
  ⟨Runs.fact fun hp => (hx hp).runs, fun s hs => (hx hs.1).reports s hs.2⟩

theorem pure {a : α} (h : ∀ s, pre s → post a s) :
    Checked risk pre (Pure.pure a) post failed [] :=
  ⟨Runs.pure h, fun _ _ => .inl (Reports.pure a)⟩

theorem get : Checked risk pre MonadStateOf.get (fun a s => pre a ∧ pre s) failed [] :=
  ⟨Runs.get, fun s _ => .inl (Reports.pure s)⟩

theorem modifyGet {f : σ → α × σ} (h : ∀ s, pre s → post (f s).1 (f s).2) :
    Checked risk pre (MonadStateOf.modifyGet f) post failed [] :=
  ⟨Runs.modifyGet h, fun s _ => .inl (Reports.pure (f s).1)⟩

theorem run_ofExcept (x : Except Failure α) (s : σ) :
    (MonadExcept.ofExcept x : ExceptT Failure (StateM σ) α).run s = (x, s) := by
  cases x <;> rfl

theorem ofExcept {x : Except Failure α} (h : Reports x checks) :
    Checked risk pre (MonadExcept.ofExcept x) (fun a s => x = .ok a ∧ pre s) pre checks := by
  refine ⟨Runs.ofExcept x, ?_⟩
  intro s _
  rw [run_ofExcept]
  exact .inl h

theorem throw {e : Failure} (hcheck : ∀ d, check d ↔ d = e) (h : ∀ s, pre s → failed s) :
    Checked risk pre (MonadExcept.throw e) post failed (check :: checks) :=
  ⟨Runs.throw h, fun _ _ => .inl (Reports.found hcheck)⟩

theorem vacuous (hcheck : ∀ e, ¬ check e) (hx : Checked risk pre x post failed checks) :
    Checked risk pre x post failed (check :: checks) := by
  refine ⟨hx.runs, ?_⟩
  intro s hs
  rcases hx.reports s hs with h | ⟨hrisk, hnone, h⟩
  · exact .inl (h.vacuous hcheck)
  · refine .inr ⟨hrisk, ?_, h⟩
    rintro e (he | ⟨-, he⟩)
    · exact hcheck e he
    · exact hnone e he

end Checked
end

def HoursFault (hours : UInt64) (e : Failure) : Prop :=
  ¬ hours.toNat * 3600 < UInt64.size ∧ e = .broken

def MetricFault (count : Nat) (e : Failure) : Prop :=
  ¬ (0 < count ∧ count ≤ cpuMetrics.length) ∧ e = .refused (.metricCount count cpuMetrics.length)

namespace Dataset

def HostFault (d : Dataset) (count : Nat) (e : Failure) : Prop :=
  ¬ (0 < count ∧ count ≤ d.scale) ∧ e = .refused (.hostCount count d.scale)

/-- The dataset has room for a window, and how much more can be told in 63 bits. -/
def HasRoom (d : Dataset) (window : Duration) : Prop :=
  window.nanos ≤ Sampler.longestWindow ∧ 0 ≤ d.stop.since d.start - window.nanos ∧
    d.stop.since d.start - window.nanos ≤ maxTimestamp

/-- What the dataset lacks for a window is more than the longest window. -/
def Underflows (d : Dataset) (window : Duration) : Prop :=
  window.nanos ≤ Sampler.longestWindow ∧
    d.stop.since d.start - window.nanos < -(Sampler.longestWindow : Int)

instance (d : Dataset) (window : Duration) : Decidable (d.Underflows window) :=
  inferInstanceAs (Decidable (_ ∧ _))

def WindowFault (d : Dataset) (window : Duration) (e : Failure) : Prop :=
  ¬ d.HasRoom window ∧ e = .refused (.windowTooLarge d.start d.stop window)

def windowFaults (d : Dataset) (window : Duration) : List (Failure → Prop) :=
  [fun e => d.Underflows window ∧ e = .broken, d.WindowFault window]

end Dataset

/-- What can be wrong with a type of query for a dataset, in the order in which it is looked at. -/
def DevopsQuery.faults (d : Dataset) : DevopsQuery → List (Failure → Prop)
  | .singleGroupby metrics hosts hours =>
    HoursFault hours :: MetricFault metrics :: d.HostFault hosts ::
      d.windowFaults (.ofSeconds (hours * 3600))
  | .maxAll hosts window => d.HostFault hosts :: d.windowFaults window
  | .doubleGroupby metrics => MetricFault metrics :: d.windowFaults Cassandra.doubleGroupbyWindow
  | .groupbyOrderbyLimit => d.windowFaults Cassandra.hour
  | .highCpu hosts =>
    (fun e => hosts ≠ 0 ∧ d.HostFault hosts e) :: d.windowFaults Cassandra.highCpuWindow
  | .lastpoint => []

namespace Sampler
variable {d : Dataset} {risk : Prop}

theorem checked_draw {α : Type} {x : Draw α} {P : α → Prop} (hx : Always x P) :
    Checked risk d.Serves (draw x) (fun a s => P a ∧ d.Serves s) d.Serves [] := by
  apply Checked.modifyGet
  intro s hs
  exact ⟨hx s.generator, hs⟩

theorem checked_hosts (count : Nat) :
    Checked risk d.Serves (hosts count) (fun _ s => d.Serves s) d.Serves [d.HostFault count] := by
  unfold hosts
  apply Checked.bind Checked.get
  intro s
  apply Checked.fact
  rintro ⟨-, -, hscale⟩
  rw [hscale]
  by_cases hcount : 0 < count ∧ count ≤ d.scale
  · rw [if_pos hcount]
    apply Checked.vacuous fun e he => he.1 hcount
    apply Checked.bind (checked_draw (sample_distinct hcount.2))
    intro ids
    exact Checked.pure fun t ht => ht.2
  · rw [if_neg hcount]
    exact Checked.throw (fun e => and_iff_right hcount) fun t ht => ht

theorem slack_reports {s : Sampler} (hs : d.Serves s) (width : Duration) :
    Reports (s.slack width) (d.windowFaults width) := by
  obtain ⟨hstart, hstop, -⟩ := hs
  unfold slack Dataset.windowFaults
  rw [hstart, hstop]
  dsimp only
  by_cases hlong : longestWindow < width.nanos
  · rw [if_pos hlong]
    apply Reports.vacuous fun e he => absurd he.1.1 (Nat.not_le.2 hlong)
    exact Reports.found fun e => and_iff_right fun room => absurd room.1 (Nat.not_le.2 hlong)
  · have hshort := Nat.le_of_not_lt hlong
    rw [if_neg hlong]
    by_cases hunder : d.stop.since d.start - width.nanos < -(longestWindow : Int)
    · rw [if_pos hunder]
      exact Reports.found fun e => and_iff_right ⟨hshort, hunder⟩
    · rw [if_neg hunder]
      apply Reports.vacuous fun e he => hunder he.1.2
      by_cases hrest : 0 ≤ d.stop.since d.start - width.nanos ∧
          d.stop.since d.start - width.nanos ≤ maxTimestamp
      · rw [if_pos hrest]
        apply Reports.vacuous fun e he => he.1 ⟨hshort, hrest⟩
        exact Reports.pure _
      · rw [if_neg hrest]
        exact Reports.found fun e => and_iff_right fun room => hrest room.2

theorem checked_place {s : Sampler} (hs : d.Serves s) {width : Duration} {slack offset : Nat}
    (hslack : s.slack width = .ok slack) (hoffset : offset ≤ slack) :
    Checked (¬ d.EndsInCalendar) d.Serves
      (MonadExcept.ofExcept (s.place (offset - offset % nanosPerSecond) width))
      (fun _ s => d.Serves s) d.Serves [] := by
  refine ⟨(Runs.ofExcept _).imp (fun _ ht => ht) fun _ _ ht => ht.2, ?_⟩
  intro t _
  rw [Checked.run_ofExcept]
  by_cases hend : d.EndsInCalendar
  · obtain ⟨w, hw⟩ := place_of_offset hend hs hslack hoffset
    rw [hw]
    exact .inl (Reports.pure w)
  · rcases s.place_cases (offset - offset % nanosPerSecond) width with ⟨w, hw⟩ | hbroken
    · rw [hw]
      exact .inl (Reports.pure w)
    · exact .inr ⟨hend, by simp [FirstOf], hbroken⟩

theorem checked_window (width : Duration) :
    Checked (¬ d.EndsInCalendar) d.Serves (window width) (fun _ s => d.Serves s) d.Serves
      (d.windowFaults width) := by
  unfold window
  apply Checked.bind Checked.get
  intro s
  apply Checked.fact
  intro hs
  apply Checked.bind (Checked.ofExcept (slack_reports hs width))
  intro slack
  apply Checked.fact
  intro hslack
  apply Checked.bind (checked_draw (drawBelow_lt .full (Nat.succ_pos slack)))
  intro offset
  apply Checked.fact
  intro hlt
  exact checked_place hs hslack (Nat.le_of_lt_succ hlt)

end Sampler

namespace Cassandra
variable {d : Dataset} {q : Query} {risk : Prop} {α : Type}

def Untouched (d : Dataset) (q : Query) (st : Query × Sampler) : Prop := st.1 = q ∧ d.Serves st.2

def Looks (risk : Prop) (d : Dataset) (q : Query) (x : Filling Sampler α)
    (faults : List (Failure → Prop)) : Prop :=
  Checked risk (Untouched d q) x (fun _ => Untouched d q) (Untouched d q) faults

def Writes (risk : Prop) (d : Dataset) (q : Query) (x : Filling Sampler α)
    (faults : List (Failure → Prop)) : Prop :=
  Checked risk (Untouched d q) x (fun _ st => d.Serves st.2) (Untouched d q) faults

theorem looks_sampling {x : Sampling α} {faults : List (Failure → Prop)}
    (hx : Checked risk d.Serves x (fun _ s => d.Serves s) d.Serves faults) :
    Looks risk d q (sampling x) faults := by
  constructor
  · rintro ⟨q', s⟩ ⟨hq, hs⟩
    obtain ⟨hok, herror⟩ := hx.runs s hs
    exact ⟨fun a ha => ⟨hq, hok a ha⟩, fun e he => ⟨hq, herror e he⟩⟩
  · rintro ⟨q', s⟩ ⟨-, hs⟩
    exact hx.reports s hs

theorem looks_hosts (count : Nat) :
    Looks risk d q (sampling (Sampler.hosts count)) [d.HostFault count] :=
  looks_sampling (Sampler.checked_hosts count)

theorem looks_window (width : Duration) :
    Looks (¬ d.EndsInCalendar) d q (sampling (Sampler.window width)) (d.windowFaults width) :=
  looks_sampling (Sampler.checked_window width)

theorem looks_metrics (count : Nat) : Looks risk d q (chooseMetrics count) [MetricFault count] := by
  unfold chooseMetrics firstMetrics
  by_cases hcount : 0 < count ∧ count ≤ cpuMetrics.length
  · rw [if_pos hcount]
    apply Checked.vacuous fun e he => he.1 hcount
    exact Checked.pure fun st hst => hst
  · rw [if_neg hcount]
    exact Checked.throw (fun e => and_iff_right hcount) fun st hst => hst

theorem writes_fill (label : String) (metrics : List String) (aggregation : String)
    (window : Instant × Instant) (groupBy : Duration) (tagSets : List (List String)) :
    Writes risk d q (fill label metrics aggregation window groupBy tagSets) [] :=
  Checked.modifyGet fun _ hst => hst.2

theorem writes_fill_edit (label : String) (metrics : List String) (aggregation : String)
    (window : Instant × Instant) (groupBy : Duration) (tagSets : List (List String))
    (f : Query → Query) :
    Writes risk d q (fill label metrics aggregation window groupBy tagSets >>= fun _ => edit f)
      [] := by
  apply Checked.bind (writes_fill label metrics aggregation window groupBy tagSets)
  intro _
  exact Checked.modifyGet fun _ hst => hst

theorem writes_groupByTime (hosts metrics : Nat) (window : Duration) :
    Writes (¬ d.EndsInCalendar) d q (groupByTime hosts metrics window)
      (MetricFault metrics :: d.HostFault hosts :: d.windowFaults window) := by
  apply Checked.bind (looks_metrics metrics)
  intro names
  apply Checked.bind (looks_hosts hosts)
  intro chosen
  apply Checked.bind_sure (looks_window window)
  intro span
  exact writes_fill _ _ _ _ _ _

theorem writes_devops (query : DevopsQuery) :
    Writes (¬ d.EndsInCalendar) d q (query.fill queries) (query.faults d) := by
  cases query with
  | singleGroupby metrics hosts hours =>
    rw [DevopsQuery.fill, DevopsQuery.faults]
    by_cases hhours : hours.toNat * 3600 < UInt64.size
    · rw [if_pos hhours]
      apply Checked.vacuous fun e he => he.1 hhours
      exact writes_groupByTime hosts metrics _
    · rw [if_neg hhours]
      exact Checked.throw (fun e => and_iff_right hhours) fun st hst => hst
  | maxAll hosts window =>
    apply Checked.bind (looks_hosts hosts)
    intro chosen
    apply Checked.bind_sure (looks_window window)
    intro span
    exact writes_fill _ _ _ _ _ _
  | doubleGroupby metrics =>
    apply Checked.bind (looks_metrics metrics)
    intro names
    apply Checked.bind_sure (looks_window _)
    intro span
    exact writes_fill _ _ _ _ _ _
  | groupbyOrderbyLimit =>
    apply Checked.bind_sure (looks_window _)
    intro span
    exact writes_fill_edit _ _ _ _ _ _ _
  | highCpu hosts =>
    have drawn : Looks False d q (if hosts = 0 then pure [] else sampling (Sampler.hosts hosts))
        [fun e => hosts ≠ 0 ∧ d.HostFault hosts e] := by
      by_cases hzero : hosts = 0
      · rw [if_pos hzero]
        apply Checked.vacuous fun e he => he.1 hzero
        exact Checked.pure fun st hst => hst
      · rw [if_neg hzero]
        simp only [ne_eq, hzero, not_false_eq_true, true_and]
        exact looks_hosts hosts
    apply Checked.ite_bind drawn
    intro names
    apply Checked.bind_sure (looks_window _)
    intro span
    exact writes_fill_edit _ _ _ _ _ _ _
  | lastpoint =>
    apply Checked.bind Checked.get
    rintro ⟨q', s⟩
    apply Checked.fact
    intro _
    exact writes_fill_edit _ _ _ _ _ _ _

theorem query_of_error {query : DevopsQuery} {s s' : Sampler} {q' : Query} {e : Failure}
    (h : (query.fill queries).run (q, s) = (.error e, (q', s'))) : q' = q := by
  have serves : Dataset.Serves ⟨s.start, s.stop, s.scale, 0⟩ s := ⟨rfl, rfl, rfl⟩
  have left := ((writes_devops query).runs (q, s) ⟨rfl, serves⟩).2 e (by rw [h])
  rw [h] at left
  exact left.1

end Cassandra

namespace QueryGenerator
variable {d : Dataset} {query : DevopsQuery} {g : QueryGenerator Sampler}

/-- An attempt fails as the type of query and the dataset say, or breaks. Only one that succeeds
uses up an id, and the generator remains one of such queries. -/
theorem next_reports (hg : g.Asking d query) :
    (Reports g.next.1 (query.faults d) ∨
      (¬ d.EndsInCalendar ∨ g.nextId.toNat + 1 = UInt64.size) ∧
        (∀ e, ¬ FirstOf (query.faults d) e) ∧ g.next.1 = .error .broken) ∧
    g.next.2.Asking d query ∧
      (∀ e, g.next.1 = .error e → g.next.2.nextId = g.nextId) ∧
      ∀ q, g.next.1 = .ok q → q.id = g.nextId ∧ g.next.2.nextId.toNat = g.nextId.toNat + 1 := by
  have fill : g.query.fill = query.fill Cassandra.queries := by rw [hg.query_eq]; rfl
  have start : Cassandra.Untouched d Query.blank (Query.blank, g.state) := ⟨rfl, hg.serves⟩
  have writes := Cassandra.writes_devops (d := d) (q := Query.blank) query
  have reports := writes.reports _ start
  obtain ⟨hok, herror⟩ := writes.runs _ start
  rw [← fill] at reports hok herror
  unfold next
  generalize g.query.fill.run (Query.blank, g.state) = r at reports hok herror
  obtain ⟨r, q, s⟩ := r
  cases r with
  | ok a =>
    have reports := reports.resolve_right fun h => absurd h.2.2 (by simp)
    dsimp only
    by_cases hleft : g.nextId.toNat + 1 < UInt64.size
    · rw [if_pos hleft]
      refine ⟨.inl ?_, ⟨hg.query_eq, hok a rfl⟩, ?_, ?_⟩
      · exact reports.bind_ok fun _ => { q with id := g.nextId }
      · intro e he
        exact absurd he (by simp)
      · intro q' hq'
        cases hq'
        exact ⟨rfl, (UInt64.toNat_add _ _).trans (Nat.mod_eq_of_lt hleft)⟩
    · rw [if_neg hleft]
      have hlast : g.nextId.toNat + 1 = UInt64.size := by
        have := g.nextId.toNat_lt_size
        omega
      refine ⟨.inr ⟨.inr hlast, ?_, rfl⟩, ⟨hg.query_eq, hok a rfl⟩, fun _ _ => rfl, ?_⟩
      · intro e he
        exact absurd ((reports e).2 he) (by simp)
      · intro q' hq'
        exact absurd hq' (by simp)
  | error e =>
    refine ⟨?_, ⟨hg.query_eq, (herror e rfl).2⟩, fun _ _ => rfl, ?_⟩
    · rcases reports with reports | ⟨hrisk, hnone, hbroken⟩
      · exact .inl (reports.bind_ok fun _ => { q with id := g.nextId })
      · cases hbroken
        exact .inr ⟨.inl hrisk, hnone, rfl⟩
    · intro q' hq'
      exact absurd hq' (by simp)

theorem next_of_fault {e : Failure} (he : FirstOf (query.faults d) e) (hg : g.Asking d query) :
    g.next.1 = .error e := by
  rcases (next_reports hg).1 with reports | ⟨-, hnone, -⟩
  · exact (reports e).2 he
  · exact absurd he (hnone e)

theorem take_of_refusal {e : WorkloadError} (he : FirstOf (query.faults d) (.refused e)) (n : Nat)
    (hg : g.Asking d query) : (g.take n).1 = List.replicate n (.error (.refused e)) ∧
      (g.take n).2.nextId = g.nextId := by
  induction n generalizing g with
  | zero => exact ⟨rfl, rfl⟩
  | succ n ih =>
    obtain ⟨-, hnext, hkept, -⟩ := next_reports hg
    have hfirst := next_of_fault he hg
    obtain ⟨hrest, hlast⟩ := ih hnext
    rw [take_of_not_broken (by simp [hfirst])]
    exact ⟨congrArg₂ List.cons hfirst hrest, hlast.trans (hkept _ hfirst)⟩

theorem take_of_no_fault (hnone : ∀ e, ¬ FirstOf (query.faults d) e) (n : Nat)
    (hg : g.Asking d query) : ∃ qs : List Query,
      qs.map (·.id.toNat) = List.range' g.nextId.toNat qs.length ∧
      (g.take n).2.nextId.toNat = g.nextId.toNat + qs.length ∧
      (qs.length = n ∧ (g.take n).1 = qs.map .ok ∨
        (¬ d.EndsInCalendar ∨ g.nextId.toNat + qs.length + 1 = UInt64.size) ∧ qs.length < n ∧
          (g.take n).1 = qs.map .ok ++ [.error .broken]) := by
  induction n generalizing g with
  | zero => exact ⟨[], rfl, rfl, .inl ⟨rfl, rfl⟩⟩
  | succ n ih =>
    obtain ⟨reports, hnext, hkept, hmade⟩ := next_reports hg
    cases hfirst : g.next.1 with
    | error e =>
      have broken : (¬ d.EndsInCalendar ∨ g.nextId.toNat + 1 = UInt64.size) ∧
          g.next.1 = .error .broken := by
        rcases reports with reports | ⟨hrisk, -, hbroken⟩
        · exact absurd ((reports e).1 hfirst) (hnone e)
        · exact ⟨hrisk, hbroken⟩
      rw [take_of_broken broken.2]
      exact ⟨[], rfl, congrArg UInt64.toNat (hkept e hfirst),
        .inr ⟨broken.1, Nat.succ_pos n, rfl⟩⟩
    | ok q =>
      obtain ⟨hq, hid⟩ := hmade q hfirst
      obtain ⟨qs, hqs, hlast, hrest⟩ := ih hnext
      rw [hid] at hqs hlast hrest
      rw [take_of_not_broken (by simp [hfirst]), hfirst]
      refine ⟨q :: qs, ?_, ?_, ?_⟩
      · rw [List.map_cons, hq, hqs, List.length_cons, List.range'_succ]
      · rw [hlast, List.length_cons]
        omega
      · rw [List.length_cons]
        rcases hrest with ⟨hlength, hrest⟩ | ⟨hrisk, hlength, hrest⟩
        · exact .inl ⟨congrArg Nat.succ hlength, congrArg (List.cons _) hrest⟩
        · refine .inr ⟨hrisk.imp_right ?_, Nat.succ_lt_succ hlength, congrArg (List.cons _) hrest⟩
          omega

/-- However long a run of queries about hosts is, and whatever is drawn for it, the type of query
and the dataset decide what is wrong. Where something is refused, all attempts fail with the same
error and use up no id, and where a number is out of range, the first attempt breaks. Otherwise
attempts succeed, with ids that count from zero, but one may break halfway if the dataset ends
beyond the calendar, as does one that would use up the last id. A query that cannot be filled in is
left as it was. -/
theorem take_by_faults {state : Sampler} {opened : OpenQuery Sampler}
    (h : Registry.openQuery Cassandra.backend (.devops query) d = .ok (state, opened))
    (name : String) :
    ((∀ e, ¬ FirstOf (query.faults d) e) → ∀ n, ∃ qs : List Query,
      qs.map (·.id.toNat) = List.range qs.length ∧
      ((mk name opened state 0).take n).2.nextId.toNat = qs.length ∧
      (qs.length = n ∧ ((mk name opened state 0).take n).1 = qs.map .ok ∨
        (¬ d.EndsInCalendar ∨ qs.length + 1 = UInt64.size) ∧ qs.length < n ∧
          ((mk name opened state 0).take n).1 = qs.map .ok ++ [.error .broken])) ∧
    (∀ e, FirstOf (query.faults d) (.refused e) → ∀ n,
      ((mk name opened state 0).take n).1 = List.replicate n (.error (.refused e)) ∧
        ((mk name opened state 0).take n).2.nextId = 0) ∧
    (FirstOf (query.faults d) .broken → ∀ n,
      ((mk name opened state 0).take (n + 1)).1 = [.error .broken]) ∧
    ∀ q s e q' s', (query.fill Cassandra.queries).run (q, s) = (.error e, (q', s')) → q' = q := by
  have asking := asking_of_openQuery h name 0
  refine ⟨?_, ?_, ?_, fun q s e q' s' => Cassandra.query_of_error⟩
  · intro hnone n
    have counted := take_of_no_fault hnone n asking
    simp only [UInt64.toNat_zero, Nat.zero_add, ← List.range_eq_range'] at counted
    exact counted
  · intro e he n
    exact take_of_refusal he n asking
  · intro he n
    rw [take_of_broken (next_of_fault he asking)]

def shortDataset : Dataset where
  start := Timestamp.instant ⟨1451606400000000000, by decide⟩
  stop := Timestamp.instant ⟨1451606405000000000, by decide⟩
  scale := 3
  seed := 7

theorem shortDataset_refused : ∃ state opened,
    Registry.openQuery Cassandra.backend (.devops (.maxAll 2 (.ofSeconds 6))) shortDataset =
      .ok (state, opened) ∧
    ∀ n, ((mk "max-all-2" opened state 0).take n).1 = List.replicate n (.error
        (.refused (.windowTooLarge shortDataset.start shortDataset.stop (.ofSeconds 6)))) ∧
      ((mk "max-all-2" opened state 0).take n).2.nextId = 0 := by
  obtain ⟨⟨state, opened⟩, hopen⟩ : ∃ p, Registry.openQuery Cassandra.backend
      (.devops (.maxAll 2 (.ofSeconds 6))) shortDataset = .ok p := ⟨_, rfl⟩
  have hosts (e : Failure) : ¬ shortDataset.HostFault 2 e := fun he => he.1 (by decide)
  have counted : ¬ shortDataset.Underflows (.ofSeconds 6) := by decide
  have small : ¬ shortDataset.HasRoom (.ofSeconds 6) := by
    rintro ⟨-, hslack, -⟩
    exact absurd hslack (by decide)
  refine ⟨state, opened, hopen, (take_by_faults hopen "max-all-2").2.1 _ ?_⟩
  exact .inr ⟨hosts, .inr ⟨fun e he => counted he.1, .inl ⟨small, rfl⟩⟩⟩

/-- The last hour before the last second of the calendar, and the leap second after that. -/
def lastDataset : Dataset where
  start := (Instant.ofParts? (maxSecond - 3600) 0).getD .epoch
  stop := (Instant.ofParts? maxSecond 1999999999).getD .epoch
  scale := 1
  seed := 0

/-- Two windows of an hour are given before one is to end beyond the calendar. -/
theorem lastDataset_breaks : ∃ state opened q₀ q₁,
    Registry.openQuery Cassandra.backend (.devops .groupbyOrderbyLimit) lastDataset =
      .ok (state, opened) ∧
    ((mk "groupby-orderby-limit" opened state 0).take 3).1 =
      [.ok q₀, .ok q₁, .error .broken] ∧ q₀.id = 0 ∧ q₁.id = 1 :=
  ⟨_, _, _, _, rfl, rfl, rfl, rfl⟩

end QueryGenerator
end SeriesBench
