import SeriesBench.Proofs.Workload.Opening
import SeriesBench.Proofs.Workload.Room

set_option autoImplicit false

namespace SeriesBench
open SeriesBench.Time SeriesBench.Random Registration

def nanosPerHour : Int := 3600000000000

theorem Time.Duration.nanos_ofSeconds_hours {hours : UInt64}
    (h : hours.toNat * 3600 < UInt64.size) :
    ((ofSeconds (hours * 3600)).nanos : Int) = hours.toNat * nanosPerHour := by
  have seconds : (hours * 3600).toNat = hours.toNat * 3600 := by
    rw [UInt64.toNat_mul]
    exact Nat.mod_eq_of_lt h
  change (((hours * 3600).toNat * 1000000000 : Nat) : Int) = _
  rw [seconds, nanosPerHour]
  omega

namespace Dataset

/-- A window of the width, whole seconds after the start of the dataset. Neither sum leaves the
calendar. -/
structure Places (d : Dataset) (width : Duration) (first last : Instant) : Prop where
  moved : ∃ seconds : Nat, d.start.add? (seconds * nanosPerSecond : Nat) = some first
  reached : first.add? width.nanos = some last

namespace Places
variable {d : Dataset} {width : Duration} {first last : Instant}

theorem of_add? {offset : Nat}
    (hfirst : d.start.add? (offset - offset % nanosPerSecond : Nat) = some first)
    (hlast : first.add? width.nanos = some last) : d.Places width first last := by
  have whole : offset - offset % nanosPerSecond = offset / nanosPerSecond * nanosPerSecond := by
    simp only [nanosPerSecond]
    omega
  rw [whole] at hfirst
  exact ⟨⟨_, hfirst⟩, hlast⟩

variable (h : d.Places width first last)
include h

theorem since_eq :
    last.since first = width.nanos - if first.LosesSecond last then 1000000000 else 0 :=
  Instant.since_of_add? (Int.natCast_nonneg _) h.reached

theorem start_isLeap (hloses : first.LosesSecond last) : d.start.isLeap = true := by
  obtain ⟨seconds, hfirst⟩ := h.moved
  refine Decidable.byContradiction fun hstart => ?_
  rw [Bool.not_eq_true] at hstart
  have steady := (Instant.unixNanos_of_add? hstart hfirst).1
  exact absurd (steady.symm.trans hloses.1) (by simp)

end Places

theorem Places.covers_hours_iff {d : Dataset} {hours : UInt64} {first last : Instant}
    (h : d.Places (.ofSeconds (hours * 3600)) first last)
    (hhours : hours.toNat * 3600 < UInt64.size) :
    last.since first = hours.toNat * nanosPerHour ↔ ¬ first.LosesSecond last := by
  rw [h.since_eq, Duration.nanos_ofSeconds_hours hhours]
  split
  · rename_i hloses
    simp only [hloses, not_true, iff_false]
    omega
  · rename_i hkept
    simp only [hkept, not_false_iff, iff_true]
    omega

end Dataset

namespace Cassandra
variable {d : Dataset}

theorem runs_groupByTime (hosts metrics : Nat) (width : Duration) :
    Runs (Ready d) (groupByTime hosts metrics width)
      (fun _ st => d.Places width st.1.timeStart st.1.timeEnd ∧ d.Serves st.2)
      (fun st => d.Serves st.2) := by
  have drawn : Runs d.Serves (Sampler.window width)
      (fun w s => d.Places width w.1 w.2 ∧ d.Serves s) d.Serves :=
    Sampler.runs_window_of fun _ _ _ _ _ _ _ _ => Dataset.Places.of_add?
  unfold groupByTime
  apply Runs.bind (runs_chooseMetrics metrics)
  intro names
  apply Runs.fact
  intro _
  apply Runs.bind (runs_sampling (Sampler.runs_hosts hosts))
  intro chosen
  apply Runs.fact
  intro _
  apply Runs.bind (runs_sampling drawn)
  intro span
  apply Runs.fact
  intro hspan
  apply Runs.modifyGet
  rintro ⟨q, s⟩ ⟨-, hs⟩
  exact ⟨hspan, hs⟩

theorem runs_singleGroupby (metrics hosts : Nat) (hours : UInt64) :
    Runs (Ready d) ((DevopsQuery.singleGroupby metrics hosts hours).fill queries)
      (fun _ st => (hours.toNat * 3600 < UInt64.size ∧
        d.Places (.ofSeconds (hours * 3600)) st.1.timeStart st.1.timeEnd) ∧ d.Serves st.2)
      (fun st => d.Serves st.2) := by
  rw [DevopsQuery.fill]
  by_cases hhours : hours.toNat * 3600 < UInt64.size
  · rw [if_pos hhours]
    apply (runs_groupByTime hosts metrics _).imp (fun _ hst => hst)
    exact fun _ st hst => ⟨⟨hhours, hst.1⟩, hst.2⟩
  · rw [if_neg hhours]
    exact Runs.throw fun st hst => hst.2

end Cassandra

namespace QueryGenerator
variable {d : Dataset} {query : DevopsQuery} {g : QueryGenerator Sampler}

theorem asking_of_starts (h : Cassandra.backend.Starts d g.state g.query (.devops query)) :
    g.Asking d query := by
  obtain ⟨start, queries, hstart, hopen, hquery⟩ := h
  obtain rfl := Option.some.inj hstart
  obtain ⟨s, hs, hstate⟩ := map_eq_ok_iff.1 hopen
  obtain ⟨hs', rfl⟩ := Prod.mk.inj hstate
  exact ⟨hquery, hs' ▸ Sampler.serves_ofDataset hs⟩

/-- What a generator of queries of the type gives is the error for the first thing that is wrong, if
anything is, and else queries, unless it breaks. -/
theorem result_of_mem_take (n : Nat) (hg : g.Asking d query) {x : Except Failure Query}
    (hx : x ∈ (g.take n).1) :
    (∃ e, x = .error (.refused e) ∧ FirstOf (query.faults d) (.refused e)) ∨
      (x = .error .broken ∧ (FirstOf (query.faults d) .broken ∨ ¬ d.EndsInCalendar ∨
        UInt64.size ≤ g.nextId.toNat + n)) ∨
      ∃ q, x = .ok q := by
  by_cases hfault : ∃ e, FirstOf (query.faults d) e
  · obtain ⟨e | _, he⟩ := hfault
    · rw [(take_of_refusal he n hg).1] at hx
      exact .inl ⟨e, List.eq_of_mem_replicate hx, he⟩
    · cases n with
      | zero => exact absurd hx (by simp [take])
      | succ n =>
        rw [take_of_broken (next_of_fault he hg)] at hx
        exact .inr (.inl ⟨List.mem_singleton.1 hx, .inl he⟩)
  · obtain ⟨qs, -, -, ⟨-, hqs⟩ | ⟨hrisk, hlength, hqs⟩⟩ :=
      take_of_no_fault (not_exists.1 hfault) n hg
    · rw [hqs] at hx
      obtain ⟨q, -, rfl⟩ := List.mem_map.1 hx
      exact .inr (.inr ⟨q, rfl⟩)
    · rw [hqs] at hx
      rcases List.mem_append.1 hx with hx | hx
      · obtain ⟨q, -, rfl⟩ := List.mem_map.1 hx
        exact .inr (.inr ⟨q, rfl⟩)
      · refine .inr (.inl ⟨List.mem_singleton.1 hx, .inr (hrisk.imp_right ?_)⟩)
        omega

/-- However many hours a query type was registered with, its generator gives errors for what is
wrong, or queries whose window is as long as the hours, but for the second that is lost if the
dataset starts in a leap second and the window ends no later in a day. The first call breaks if the
hours have more seconds than 64 bits can count. Besides, a call can only break if the dataset lacks
more of the window than can be counted or does not end in the calendar, or if there is no id after
its own. -/
theorem covers_hours {calls : List (Registration Sampler)} {useCases : List UseCase}
    {queryType : String} {metrics hosts : Nat} {hours : UInt64}
    (hbackend : firstBackend? calls Cassandra.backendName = some ⟨Cassandra.backend, useCases⟩)
    (htype : lastType? calls .devops queryType =
      some (.devops (.singleGroupby metrics hosts hours)))
    (hopen : (Registry.empty.after calls).generator Cassandra.backendName .devops queryType d =
      .ok g) :
    (¬ hours.toNat * 3600 < UInt64.size → ∀ n, (g.take (n + 1)).1 = [.error .broken]) ∧
    ∀ n, ∀ x ∈ (g.take n).1,
      (∃ e, x = .error (.refused e) ∧
        FirstOf ((DevopsQuery.singleGroupby metrics hosts hours).faults d) (.refused e)) ∨
      (x = .error .broken ∧ (¬ hours.toNat * 3600 < UInt64.size ∨
        d.Underflows (.ofSeconds (hours * 3600)) ∨ ¬ d.EndsInCalendar ∨ UInt64.size ≤ n)) ∨
      ∃ q, x = .ok q ∧ hours.toNat * 3600 < UInt64.size ∧
        d.Places (.ofSeconds (hours * 3600)) q.timeStart q.timeEnd ∧
        (q.timeEnd.since q.timeStart = hours.toNat * nanosPerHour ↔
          ¬ q.timeStart.LosesSecond q.timeEnd) ∧
        (q.timeStart.LosesSecond q.timeEnd → d.start.isLeap = true) := by
  obtain ⟨-, -, hzero, b, type, hb, -, htype', starts⟩ :=
    Registry.opened_of_generator calls _ _ _ _ hopen
  obtain rfl := Option.some.inj (hbackend.symm.trans hb)
  obtain rfl := Option.some.inj (htype.symm.trans htype')
  have asking := asking_of_starts starts
  refine ⟨?_, ?_⟩
  · intro hhours n
    have found : FirstOf ((DevopsQuery.singleGroupby metrics hosts hours).faults d) .broken :=
      .inl ⟨hhours, rfl⟩
    rw [take_of_broken (next_of_fault found asking)]
  · intro n x hx
    rcases result_of_mem_take n asking hx with hfault | ⟨rfl, hbroken⟩ | ⟨q, rfl⟩
    · exact .inl hfault
    · refine .inr (.inl ⟨rfl, ?_⟩)
      rcases hbroken with (he | ⟨-, he | ⟨-, he | ⟨-, he⟩⟩⟩) | hend
      · exact .inl he.1
      · exact absurd he.2 (by simp)
      · exact absurd he.2 (by simp)
      · exact .inr (.inl (Dataset.firstOf_windowFaults_broken.1 he))
      · rw [hzero, UInt64.toNat_zero, Nat.zero_add] at hend
        exact .inr (.inr hend)
    · have made := of_mem_take (P := fun q => hours.toNat * 3600 < UInt64.size ∧
          d.Places (.ofSeconds (hours * 3600)) q.timeStart q.timeEnd)
        (fun _ _ hq => hq) (Cassandra.runs_singleGroupby metrics hosts hours) n asking hx
      obtain ⟨hhours, places⟩ := made
      exact .inr (.inr ⟨q, rfl, hhours, places, places.covers_hours_iff hhours,
        places.start_isLeap⟩)

end QueryGenerator

def dayDataset : Dataset where
  start := Timestamp.instant ⟨1451692800000000000, by decide⟩
  stop := Timestamp.instant ⟨1451779200000000000, by decide⟩
  scale := 1
  seed := 0

def registeredHours (hours : UInt64) : List (Registration Sampler) :=
  [.backend Cassandra.backend [.devops],
    .queryType "single-groupby-1-1-x" (.devops (.singleGroupby 1 1 hours))]

theorem dayDataset_half_covered : ∃ g,
    (Registry.empty.after (registeredHours 12)).generator Cassandra.backendName .devops
      "single-groupby-1-1-x" dayDataset = .ok g ∧
    ∀ n < UInt64.size, ∀ x ∈ (g.take n).1, ∃ q, x = .ok q ∧
      q.timeEnd.since q.timeStart = 12 * nanosPerHour := by
  obtain ⟨g, hopen⟩ : ∃ g, (Registry.empty.after (registeredHours 12)).generator
    Cassandra.backendName .devops "single-groupby-1-1-x" dayDataset = .ok g := ⟨_, rfl⟩
  have hend : dayDataset.EndsInCalendar := by decide
  have room : dayDataset.HasRoom (.ofSeconds (12 * 3600)) := ⟨by decide, by decide, by decide⟩
  have counted : ¬ dayDataset.Underflows (.ofSeconds (12 * 3600)) := by decide
  refine ⟨g, hopen, ?_⟩
  intro n hn x hx
  rcases (QueryGenerator.covers_hours rfl rfl hopen).2 n x hx with
    ⟨e, -, he⟩ | ⟨-, hhours | hunder | hend' | hmany⟩ | ⟨q, hq, -, -, hiff, hleap⟩
  · rcases he with he | ⟨-, he | ⟨-, he | ⟨-, he | ⟨-, he | ⟨-, he⟩⟩⟩⟩⟩
    · exact absurd he.1 (by decide)
    · exact absurd he.1 (by decide)
    · exact absurd he.1 (by decide)
    · exact absurd he.1 counted
    · exact absurd room he.1
    · exact he.elim
  · exact absurd (by decide) hhours
  · exact absurd hunder counted
  · exact absurd hend hend'
  · exact absurd hmany (Nat.not_le.2 hn)
  · refine ⟨q, hq, hiff.2 ?_⟩
    intro hloses
    exact absurd (hleap hloses) (by decide)

/-- The seconds of 2^60 hours are more than 64 bits can count. -/
theorem endless_hours_break : ∃ g,
    (Registry.empty.after (registeredHours 1152921504606846976)).generator
      Cassandra.backendName .devops "single-groupby-1-1-x" dayDataset = .ok g ∧
    g.next.1 = .error .broken :=
  ⟨_, rfl, rfl⟩

end SeriesBench
