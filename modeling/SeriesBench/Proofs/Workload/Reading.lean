import SeriesBench.Plan.Planner
import SeriesBench.Proofs.Fleet.Coverage
import SeriesBench.Proofs.Workload.Asked

set_option autoImplicit false

namespace SeriesBench
open SeriesBench.Time SeriesBench.Text

theorem split_intercalate {sep : Char} {parts : List (List Char)} (hne : parts ≠ [])
    (hfree : ∀ part ∈ parts, sep ∉ part) : split sep (List.intercalate [sep] parts) = parts := by
  induction parts with
  | nil => exact absurd rfl hne
  | cons part rest ih =>
    have front : sep ∉ part := hfree part List.mem_cons_self
    cases rest with
    | nil => simpa using split_of_not_mem front
    | cons next rest =>
      have joined : List.intercalate [sep] (part :: next :: rest) =
          part ++ sep :: List.intercalate [sep] (next :: rest) := by simp
      have later := ih (List.cons_ne_nil _ _) fun p hp => hfree p (List.mem_cons_of_mem _ hp)
      rw [joined, split_append front, later]

theorem splitString_intercalate {parts : List String} (hne : parts ≠ [])
    (h : ∀ part ∈ parts, ',' ∉ part.toList) :
    splitString ',' (String.intercalate "," parts) = parts := by
  have comma : ",".toList = [','] := rfl
  rw [splitString, String.toList_intercalate, comma, split_intercalate]
  · rw [List.map_map]
    exact (List.map_congr_left fun s _ => String.ofList_toList).trans (List.map_id parts)
  · simpa using hne
  · simpa using h

theorem read_hostnameTerm (name : String) :
    TagTerm.read (hostnameTag ++ "=" ++ name) = .ok ⟨hostnameTag, name⟩ := by
  have term : (hostnameTag ++ "=" ++ name).toList = "hostname".toList ++ '=' :: name.toList := by
    simp [hostnameTag]
  have free : '=' ∉ "hostname".toList := by decide
  have cut := splitOnce_append free name.toList
  rw [TagTerm.read, term, cut]
  simp [hostnameTag]

def hostFilter (names : List String) : TagFilter := ⟨names.map fun n => [⟨hostnameTag, n⟩]⟩

theorem readClauses_hostTagSets (names : List String) :
    TagFilter.readClauses (hostTagSets names) = .ok (hostFilter names) := by
  have clauses : (hostTagSets names).mapM (List.mapM TagTerm.read) =
      .ok (names.map fun n => [⟨hostnameTag, n⟩]) := by
    rw [mapM_eq_ok_iff, hostTagSets, List.forall₂_map_left_iff, List.forall₂_map_right_iff,
      List.forall₂_same]
    intro name _
    rw [mapM_eq_ok_iff]
    exact .cons (read_hostnameTerm name) .nil
  rw [TagFilter.readClauses, clauses]
  rfl

theorem accepts_hostFilter (names : List String) (h : Host) :
    (hostFilter names).accepts (StringMap.ofList h.tags) =
      (names.isEmpty || decide (h.name ∈ names)) := by
  rw [Bool.eq_iff_iff]
  simp only [TagFilter.accepts, TagFilter.isEmpty, hostFilter, List.isEmpty_map, List.any_map,
    Bool.or_eq_true, List.any_eq_true, Function.comp_apply, List.all_cons, List.all_nil,
    Bool.and_true, decide_eq_true_eq, TagTerm.Holds, Host.get?_hostnameTag, Option.some.injEq,
    exists_eq_right']

theorem countP_accepts {scale : Nat} (seed : UInt64) {ids : List Nat} (hids : ids.Nodup)
    (hlt : ∀ id ∈ ids, id < scale) :
    (Fleet.generate scale seed).hosts.countP (fun h =>
        (hostFilter (ids.map Host.hostname)).accepts (StringMap.ofList h.tags)) =
      if ids.isEmpty then scale else ids.length := by
  have names : (Fleet.generate scale seed).hosts.countP (fun h =>
      (hostFilter (ids.map Host.hostname)).accepts (StringMap.ofList h.tags)) =
      (List.range scale).countP fun id => ids.isEmpty || decide (id ∈ ids) := by
    apply (countP_of_forall₂ (Fleet.drawn_generate scale seed).flip _).symm
    intro h id hdrawn
    rw [accepts_hostFilter, hdrawn.name_eq, List.isEmpty_map]
    congr 1
    rw [decide_eq_decide, List.mem_map_of_injective fun _ _ => Host.hostname_injective]
  rw [names]
  cases ids with
  | nil => simp
  | cons id rest =>
    have found : ((List.range scale).filter fun i => decide (i ∈ id :: rest)).Perm (id :: rest) := by
      rw [List.perm_ext_iff_of_nodup (List.nodup_range.filter _) hids]
      intro i
      rw [List.mem_filter, decide_eq_true_iff, List.mem_range]
      exact ⟨fun hi => hi.2, fun hi => ⟨hlt i hi, hi⟩⟩
    simp only [List.isEmpty_cons, Bool.false_or, Bool.false_eq_true, if_false]
    rw [List.countP_eq_length_filter, found.length_eq]

theorem spanBetween_eq_ok {start stop : Instant} (hlow : minTimestamp ≤ start.unixNanos)
    (horder : start.unixNanos ≤ stop.unixNanos) (hhigh : stop.unixNanos ≤ maxTimestamp) :
    spanBetween start stop =
      .ok ⟨start.unixNanos, stop.unixNanos, hlow, horder, hhigh⟩ := by
  have first : timestampOf start = .ok ⟨start.unixNanos, hlow, by omega⟩ := by
    rw [timestampOf, Instant.timestamp?, Timestamp.ofInt?, dif_pos ⟨hlow, by omega⟩]
  have last : timestampOf stop = .ok ⟨stop.unixNanos, by omega, hhigh⟩ := by
    rw [timestampOf, Instant.timestamp?, Timestamp.ofInt?, dif_pos ⟨by omega, hhigh⟩]
  rw [spanBetween, first, last]
  change spanOf _ _ = _
  rw [spanOf, Interval.between?, dif_pos horder]

/-- What the planner reads in a query that asks for metrics and hosts. -/
structure Query.Selects (q : Query) (metrics : Nat) (ids : List Nat) (s : Selection) : Prop where
  selection_eq : q.selection = .ok s
  measurement_eq : s.measurement = cpuMeasurement
  fields_eq : s.fields = cpuMetrics.take metrics
  start_eq : s.span.start = q.timeStart.unixNanos
  stop_eq : s.span.stop = q.timeEnd.unixNanos
  filter_eq : s.filter = hostFilter (ids.map Host.hostname)

theorem Query.Asks.selects {q : Query} {d : Dataset} {metrics : Nat} {ids : List Nat}
    (h : q.Asks d metrics ids) (hlow : minTimestamp ≤ d.start.unixNanos)
    (hhigh : d.stop.unixNanos ≤ maxTimestamp) : ∃ s, q.Selects metrics ids s := by
  have hwindow := h.window
  have first := hwindow.start_le
  have last := hwindow.le_stop
  have hmeasurement : q.measurement = .ok cpuMeasurement := by
    rw [Query.measurement, h.measurement_eq]
    rfl
  have hfields : q.fields = .ok (cpuMetrics.take metrics) := by
    have plain : ∀ m ∈ cpuMetrics, ',' ∉ m.toList := by decide
    have some : cpuMetrics.take metrics ≠ [] := by
      have := h.metrics_pos
      simp [cpuMetrics]
      omega
    have written : q.fieldNames ≠ "" := by
      intro hempty
      have cut := splitString_intercalate some fun m hm => plain m (List.mem_of_mem_take hm)
      rw [← h.fields_eq, hempty] at cut
      have hmem : "" ∈ cpuMetrics.take metrics := cut ▸ List.mem_cons_self
      exact absurd (List.mem_of_mem_take hmem) (by decide)
    rw [Query.fields, if_neg (by simpa using written), h.fields_eq, splitString_intercalate some
      fun m hm => plain m (List.mem_of_mem_take hm)]
  have hfilter : q.tagFilter = .ok (hostFilter (ids.map Host.hostname)) := by
    rw [Query.tagFilter, h.tagSets_eq, readClauses_hostTagSets]
  have hfirst : minTimestamp ≤ q.timeStart.unixNanos := by omega
  have hlast : q.timeEnd.unixNanos ≤ maxTimestamp := by omega
  have hspan := spanBetween_eq_ok hfirst hwindow.ordered hlast
  exact ⟨⟨_, _, _, _⟩, selection_eq_ok_iff.2 ⟨hmeasurement, hfields, hspan, hfilter⟩, rfl, rfl, rfl,
    rfl, rfl⟩

end SeriesBench
