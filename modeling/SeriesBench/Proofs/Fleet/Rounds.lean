import SeriesBench.Proofs.Fleet.Loading

set_option autoImplicit false

/-!
# A simulation goes round

All hosts report once in each round, one after the other, and the clock is moved on by an interval
after the last of them. The rounds that begin before the end are the whole of a simulation.
-/
namespace SeriesBench
open SeriesBench.Time SeriesBench.Random

namespace Simulator

theorem length_mapM_draw {α β : Type} (f : α → Draw β) (xs : List α) :
    Always (xs.mapM f) fun ys => ys.length = xs.length :=
  (mapM_always xs fun x _ => .trivial (f x)).mono fun _ h => h.length_eq.symm

theorem exists_next? {s : Simulator} (hnot : ¬ s.stop ≤ s.now) (hhost : s.nextHost < s.hosts.size)
    (husage : s.usage.size = s.hosts.size) : ∃ r, s.next? = some r := by
  rw [next?, if_neg hnot, Array.getElem?_eq_getElem hhost,
    Array.getElem?_eq_getElem (husage ▸ hhost)]
  exact ⟨_, rfl⟩

theorem length_of_mem_usage {s s' : Simulator} {p : Point} {count : Nat}
    (h : s.next? = some (p, s')) (hs : ∀ readings ∈ s.usage, readings.length = count) :
    ∀ readings ∈ s'.usage, readings.length = count := by
  unfold next? at h
  split at h
  · exact absurd h (by simp)
  · split at h
    · rename_i host moving _ hmoving
      obtain ⟨-, rfl⟩ := Prod.mk.inj (Option.some.inj h)
      intro readings hmem
      rcases Array.mem_or_eq_of_mem_setIfInBounds hmem with hold | rfl
      · exact hs readings hold
      · rw [← hs moving (Array.mem_of_getElem? hmoving)]
        exact length_mapM_draw nextReading moving s.generator
    · exact absurd h (by simp)

def rounds (start stop : Instant) (interval : Duration) : Nat :=
  (ceilDiv (stop.unixNanos - start.unixNanos) interval.nanos).toNat

/-- Whether the point is the one that host `k % scale` reports in round `k / scale`, at the time of
that round and before the end. -/
structure OnGrid (f : Fleet) (start stop : Instant) (interval : Duration) (k : Nat) (p : Point) :
    Prop where
  measurement : p.measurement = cpuMeasurement
  tags : ∃ h, f.hosts[k % f.scale]? = some h ∧
    p.tags = h.tags.map fun tag => (tag.1, some (.text tag.2))
  fields : p.fields.map (·.1) = cpuMetrics
  readings : ∀ field ∈ p.fields, ∃ x, field.2 = some (.real x)
  time : ∃ t, p.time = some t ∧ start.add? (k / f.scale * interval.nanos : Nat) = some t ∧
    t.unixNanos = start.unixNanos + (k / f.scale * interval.nanos : Nat) ∧ t < stop

structure Scheduled (f : Fleet) (start stop : Instant) (interval : Duration) (k : Nat)
    (s : Simulator) : Prop where
  hosts_eq : s.hosts = f.hosts.toArray
  usage_size : s.usage.size = f.scale
  usage_length : ∀ readings ∈ s.usage, readings.length = cpuMetrics.length
  stop_eq : s.stop = stop
  interval_eq : s.interval = interval
  nextHost_eq : s.nextHost = k % f.scale
  now_eq : s.now = (start.add? (k / f.scale * interval.nanos : Nat)).getD stop

section Grid
variable {f : Fleet} {start stop : Instant} {interval : Duration} {seed : UInt64} {s s' : Simulator}
  {p : Point} {k : Nat}

theorem Started.scheduled (h : Started f start stop interval seed s) (hstart : start.isLeap = false) :
    Scheduled f start stop interval 0 s := by
  have husage : Always (f.hosts.mapM fun _ => cpuMetrics.mapM fun _ => firstReading)
      (List.Forall₂ (fun _ readings => readings.length = cpuMetrics.length) f.hosts) :=
    mapM_always f.hosts fun _ _ => length_mapM_draw _ cpuMetrics
  have drawn := husage (Generator.ofSeed seed)
  refine ⟨h.hosts_eq, ?_, ?_, h.stop_eq, h.interval_eq, ?_, ?_⟩
  · rw [h.usage_eq, List.size_toArray]
    exact drawn.length_eq.symm
  · intro readings hmem
    rw [h.usage_eq, List.mem_toArray] at hmem
    obtain ⟨_, -, hlength⟩ := exists_left_of_mem drawn hmem
    exact hlength
  · rw [h.nextHost_eq, Nat.zero_mod]
  · rw [h.now_eq, Nat.zero_div, Nat.zero_mul, Int.natCast_zero, Instant.add?_zero hstart,
      Option.getD_some]

theorem lt_rounds_iff (hinterval : 0 < interval.nanos) (round : Nat) :
    round < rounds start stop interval ↔
      start.unixNanos + (round * interval.nanos : Nat) < stop.unixNanos := by
  have cell := lt_ceilDiv (t := stop.unixNanos - start.unixNanos)
    (Int.natCast_pos.2 hinterval) (round : Int)
  unfold rounds
  rw [Int.natCast_mul]
  omega

theorem succ_div_mod_of_last {n : Nat} (hn : 0 < n) (hlast : k % n + 1 = n) :
    (k + 1) / n = k / n + 1 ∧ (k + 1) % n = 0 := by
  have whole : k + 1 = n * (k / n + 1) := by
    have parts := Nat.div_add_mod k n
    rw [Nat.mul_add, Nat.mul_one]
    omega
  rw [whole]
  exact ⟨Nat.mul_div_cancel_left _ hn, Nat.mul_mod_right n _⟩

theorem succ_div_mod_of_not_last {n : Nat} (hn : 0 < n) (hlast : k % n + 1 ≠ n) :
    (k + 1) / n = k / n ∧ (k + 1) % n = k % n + 1 := by
  have hlt : k % n + 1 < n := Nat.lt_of_le_of_ne (Nat.mod_lt k hn) hlast
  have split : k + 1 = n * (k / n) + (k % n + 1) := by
    have parts := Nat.div_add_mod k n
    omega
  rw [split, Nat.mul_add_div hn, Nat.div_eq_of_lt hlt, Nat.mul_add_mod, Nat.mod_eq_of_lt hlt]
  exact ⟨rfl, rfl⟩

theorem Scheduled.hosts_size (h : Scheduled f start stop interval k s) :
    s.hosts.size = f.scale := by
  rw [h.hosts_eq, List.size_toArray]
  rfl

theorem Scheduled.next (h : Scheduled f start stop interval k s) (hstep : Step s p s')
    (hlength : ∀ readings ∈ s'.usage, readings.length = cpuMetrics.length)
    (hstart : start.isLeap = false) (hscale : 0 < f.scale) {t : Instant}
    (hadd : start.add? (k / f.scale * interval.nanos : Nat) = some t) :
    Scheduled f start stop interval (k + 1) s' := by
  have hnow : s.now = t := by rw [h.now_eq, hadd, Option.getD_some]
  have hsize := h.hosts_size
  have hlast := hstep.nextHost_eq
  have hclock := hstep.now_eq
  rw [h.nextHost_eq, hsize] at hlast hclock
  rw [h.interval_eq, h.stop_eq, hnow] at hclock
  have hosts := hstep.hosts_eq.trans h.hosts_eq
  have usage := hstep.usage_size.trans h.usage_size
  have ends := hstep.stop_eq.trans h.stop_eq
  have pace := hstep.interval_eq.trans h.interval_eq
  by_cases hround : k % f.scale + 1 = f.scale
  · rw [if_pos hround] at hlast hclock
    obtain ⟨hdiv, hmod⟩ := succ_div_mod_of_last hscale hround
    refine ⟨hosts, usage, hlength, ends, pace, hlast.trans hmod.symm, ?_⟩
    rw [hclock, hdiv, Nat.add_mul, Nat.one_mul, Instant.add?_of_add? hstart hadd, Int.natCast_add]
  · rw [if_neg hround] at hlast hclock
    obtain ⟨hdiv, hmod⟩ := succ_div_mod_of_not_last hscale hround
    refine ⟨hosts, usage, hlength, ends, pace, hlast.trans hmod.symm, ?_⟩
    rw [hclock, hdiv, hadd, Option.getD_some]

theorem fields_point {h : Host} {readings : List Float} {t : Instant}
    (hlength : readings.length = cpuMetrics.length) :
    (point h readings t).fields.map (·.1) = cpuMetrics := by
  change ((cpuMetrics.zip readings).map _).map _ = cpuMetrics
  rw [List.map_map]
  exact List.map_fst_zip (Nat.le_of_eq hlength.symm)

theorem Scheduled.step (h : Scheduled f start stop interval k s) (hstart : start.isLeap = false)
    (hstop : stop.isLeap = false) (hinterval : 0 < interval.nanos)
    (hk : k < f.scale * rounds start stop interval) :
    ∃ p s', s.next? = some (p, s') ∧ OnGrid f start stop interval k p ∧
      Scheduled f start stop interval (k + 1) s' := by
  have hscale : 0 < f.scale := Nat.pos_of_mul_pos_right (Nat.zero_lt_of_lt hk)
  have hbefore := (lt_rounds_iff hinterval _).1 (Nat.div_lt_of_lt_mul hk)
  obtain ⟨t, hadd, hsteady, hnanos⟩ := Instant.add?_eq_some (a := start) hstart
    (k / f.scale * interval.nanos : Nat) (by omega) (Int.le_of_lt hbefore) hstop
  have hnow : s.now = t := by rw [h.now_eq, hadd, Option.getD_some]
  have hlt : t < stop := (Instant.lt_iff_unixNanos hsteady hstop).2 (hnanos ▸ hbefore)
  have hsize := h.hosts_size
  have hnot : ¬ s.stop ≤ s.now := by
    rw [h.stop_eq, hnow, Instant.not_le]
    exact hlt
  have hturn : s.nextHost < s.hosts.size := by
    rw [h.nextHost_eq, hsize]
    exact Nat.mod_lt k hscale
  obtain ⟨⟨p, s'⟩, hnext⟩ := exists_next? hnot hturn (h.usage_size.trans hsize.symm)
  have hstep := step_of_next? hnext
  refine ⟨p, s', hnext, ?_, h.next hstep (length_of_mem_usage hnext h.usage_length) hstart hscale
    hadd⟩
  obtain ⟨host, readings, hhost, hreadings, rfl⟩ := hstep.reports
  have hlength := h.usage_length readings (Array.mem_of_getElem? hreadings)
  refine ⟨rfl, ⟨host, ?_, rfl⟩, fields_point hlength, ?_, t, congrArg some hnow, hadd, hnanos, hlt⟩
  · rw [← hhost, h.hosts_eq, h.nextHost_eq, List.getElem?_toArray]
  · intro field hfield
    obtain ⟨reading, -, rfl⟩ := List.mem_map.1 hfield
    exact ⟨reading.2, rfl⟩

theorem Scheduled.ended
    (h : Scheduled f start stop interval (f.scale * rounds start stop interval) s)
    (hstart : start.isLeap = false) (hstop : stop.isLeap = false) (hinterval : 0 < interval.nanos) :
    s.next? = none := by
  unfold next?
  by_cases hscale : f.scale = 0
  · have nobody : s.hosts[s.nextHost]? = none := by
      rw [h.hosts_eq, List.getElem?_toArray, List.eq_nil_of_length_eq_zero hscale]
      rfl
    rw [nobody, ite_self]
  · have late : ¬ start.unixNanos + (rounds start stop interval * interval.nanos : Nat) <
        stop.unixNanos := mt (lt_rounds_iff hinterval _).2 (Nat.lt_irrefl _)
    have hnow := h.now_eq
    rw [Nat.mul_div_cancel_left _ (Nat.pos_of_ne_zero hscale)] at hnow
    apply if_pos
    rw [h.stop_eq, hnow]
    cases hadd : start.add? (rounds start stop interval * interval.nanos : Nat) with
    | none =>
      rw [Option.getD_none, Instant.le_iff_unixNanos hstop hstop]
    | some t =>
      obtain ⟨hsteady, hnanos⟩ := Instant.unixNanos_of_add? hstart hadd
      rw [Option.getD_some, Instant.le_iff_unixNanos hstop hsteady]
      omega

theorem Scheduled.run (h : Scheduled f start stop interval 0 s) (hstart : start.isLeap = false)
    (hstop : stop.isLeap = false) (hinterval : 0 < interval.nanos) {n : Nat}
    (hn : n ≤ f.scale * rounds start stop interval) :
    (s.take n).1.length = n ∧ Scheduled f start stop interval n (s.take n).2 ∧
      ∀ k < n, ∃ p, (s.take n).1[k]? = some p ∧ OnGrid f start stop interval k p := by
  induction n with
  | zero => exact ⟨rfl, h, fun k hk => absurd hk (Nat.not_lt_zero k)⟩
  | succ n ih =>
    obtain ⟨hlength, hscheduled, hpoints⟩ := ih (Nat.le_of_succ_le hn)
    obtain ⟨p, s', hnext, hgrid, hafter⟩ := hscheduled.step hstart hstop hinterval hn
    rw [take_snoc hnext]
    refine ⟨by rw [List.length_append, hlength]; rfl, hafter, ?_⟩
    intro k hk
    by_cases hlast : k = n
    · subst hlast
      exact ⟨p, by rw [List.getElem?_append_right (by omega), hlength, Nat.sub_self]; rfl, hgrid⟩
    · obtain ⟨q, hq, hgrid⟩ := hpoints k (by omega)
      exact ⟨q, by rw [List.getElem?_append_left (by omega), hq], hgrid⟩

theorem Started.le_pointBound (h : Started f start stop interval seed s)
    (hstart : start.isLeap = false) (hstop : stop.isLeap = false) :
    f.scale * rounds start stop interval ≤ s.pointBound := by
  have hinterval := h.interval_pos
  rw [pointBound, (h.scheduled hstart).hosts_size, h.stop_eq, h.interval_eq, h.now_eq,
    Instant.since_eq hstop hstart]
  apply Nat.mul_le_mul_left
  by_contra hmore
  have hbegins := (lt_rounds_iff hinterval _).1 (Nat.lt_of_not_le hmore)
  generalize hspan : (stop.unixNanos - start.unixNanos).toNat = span at hbegins
  have hover := Nat.lt_mul_div_succ span hinterval
  rw [Nat.mul_comm, Nat.add_mul] at hover
  rw [Nat.add_mul] at hbegins
  omega

/-- A simulation has a point for every host and round, in that order, and then no more. The clock
is set to the end if the next round were to begin beyond the calendar. -/
theorem points_on_grid (hstart : start.isLeap = false) (hstop : stop.isLeap = false)
    (h : Simulator.start f start stop interval seed = .ok s) :
    s.points.length = f.scale * rounds start stop interval ∧
    (∀ k < f.scale * rounds start stop interval, ∃ p, s.points[k]? = some p ∧
      OnGrid f start stop interval k p) ∧
    (∀ n, (s.take n).1 = s.points.take n ∧
      ((s.take n).2.next? = none ↔ f.scale * rounds start stop interval ≤ n)) ∧
    ∀ n ≤ f.scale * rounds start stop interval,
      (s.take n).2.now = (start.add? (n / f.scale * interval.nanos : Nat)).getD stop := by
  have hstarted := started_of_start h
  have hinterval := hstarted.interval_pos
  have hfirst := hstarted.scheduled hstart
  have run {n : Nat} (hn : n ≤ f.scale * rounds start stop interval) :=
    hfirst.run hstart hstop hinterval hn
  have hended := (run (Nat.le_refl _)).2.1.ended hstart hstop hinterval
  have stays {n : Nat} (hn : f.scale * rounds start stop interval ≤ n) :
      s.take n = s.take (f.scale * rounds start stop interval) := by
    obtain ⟨more, rfl⟩ := Nat.exists_eq_add_of_le hn
    exact take_add_of_ended hended more
  have hall : s.points = (s.take (f.scale * rounds start stop interval)).1 := by
    rw [points, stays (hstarted.le_pointBound hstart hstop)]
  refine ⟨?_, ?_, ?_, fun n hn => (run hn).2.1.now_eq⟩
  · rw [hall]
    exact (run (Nat.le_refl _)).1
  · rw [hall]
    exact (run (Nat.le_refl _)).2.2
  · intro n
    rcases Nat.lt_or_ge n (f.scale * rounds start stop interval) with hn | hn
    · obtain ⟨more, hmore⟩ := Nat.exists_eq_add_of_le (Nat.le_of_lt hn)
      obtain ⟨p, s', hnext, -, -⟩ := (run (Nat.le_of_lt hn)).2.1.step hstart hstop hinterval hn
      refine ⟨by rw [hall, hmore, take_take], ?_⟩
      rw [hnext]
      simp [hn]
    · rw [stays hn, hall]
      refine ⟨?_, by simp [hended, hn]⟩
      rw [List.take_of_length_le]
      rw [(run (Nat.le_refl _)).1]
      exact hn

end Grid

end Simulator

def lateStart : Instant := (Instant.ofUnix? (maxSecond - 89999) 0).getD .epoch

def lateStop : Instant := (Instant.ofUnix? maxSecond 999999999).getD .epoch

/-- Two rounds of two hosts, after which the clock cannot be moved on by another twenty hours. -/
theorem late_points_on_grid : ∃ s, lateStart.isLeap = false ∧ lateStop.isLeap = false ∧
    Simulator.start (Fleet.generate 2 7) lateStart lateStop (Duration.ofSeconds 72000) 11 = .ok s ∧
    s.points.length = 4 ∧
    (∀ k < 4, ∃ p, s.points[k]? = some p ∧ Simulator.OnGrid (Fleet.generate 2 7) lateStart lateStop
      (Duration.ofSeconds 72000) k p) ∧
    (s.take 4).2.next? = none ∧ (s.take 4).2.now = lateStop ∧
    lateStart.add? (2 * (Duration.ofSeconds 72000).nanos : Nat) = none := by
  obtain ⟨s, hs⟩ : ∃ s, Simulator.start (Fleet.generate 2 7) lateStart lateStop
      (Duration.ofSeconds 72000) 11 = .ok s := ⟨_, rfl⟩
  have htwo : (Fleet.generate 2 7).scale = 2 := Fleet.scale_generate 2 7
  have hrounds : Simulator.rounds lateStart lateStop (Duration.ofSeconds 72000) = 2 := by decide
  have beyond : lateStart.add? (2 * (Duration.ofSeconds 72000).nanos : Nat) = none := by decide
  obtain ⟨hlength, hpoints, hended, hclock⟩ := Simulator.points_on_grid rfl rfl hs
  rw [htwo, hrounds] at hlength hpoints
  have hlast := hclock 4 (by rw [htwo, hrounds])
  rw [htwo, beyond] at hlast
  refine ⟨s, rfl, rfl, hs, hlength, hpoints, (hended 4).2.2 ?_, hlast, beyond⟩
  rw [htwo, hrounds]

end SeriesBench
