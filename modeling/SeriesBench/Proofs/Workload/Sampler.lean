import SeriesBench.Proofs.Random.Distinct
import SeriesBench.Proofs.Success
import SeriesBench.Proofs.Time.LeapSeconds
import SeriesBench.Proofs.Workload.Runs

set_option autoImplicit false

namespace SeriesBench
open SeriesBench.Time SeriesBench.Random

namespace Dataset

def Serves (d : Dataset) (s : Sampler) : Prop :=
  s.start = d.start ∧ s.stop = d.stop ∧ s.scale = d.scale

structure Holds (d : Dataset) (first last : Instant) : Prop where
  first_steady : first.isLeap = false
  last_steady : last.isLeap = false
  start_le : d.start.unixNanos ≤ first.unixNanos
  ordered : first.unixNanos ≤ last.unixNanos
  le_stop : last.unixNanos ≤ d.stop.unixNanos

/-- A window of the width in the dataset, whole seconds after the start. Neither sum leaves the
calendar, and the offset has as many nanoseconds as 63 bits can count. -/
structure Gives (d : Dataset) (width : Duration) (first last : Instant) : Prop where
  moved : ∃ seconds : Nat, (seconds * nanosPerSecond : Nat) ≤ maxTimestamp ∧
    d.start.add? (seconds * nanosPerSecond : Nat) = some first ∧
    first.since d.start = (seconds * nanosPerSecond : Nat)
  reached : first.add? width.nanos = some last
  start_le : d.start ≤ first
  le_stop : last ≤ d.stop
  length : last.since first = width.nanos

/-- The dataset does not end in the leap second after the calendar's last second, of which the
nanoseconds from the epoch are beyond it. -/
def EndsInCalendar (d : Dataset) : Prop :=
  d.stop.unixNanos < (maxSecond + 1) * nanosPerSecond

instance (d : Dataset) : Decidable d.EndsInCalendar := inferInstanceAs (Decidable (_ < _))

theorem Gives.holds {d : Dataset} {width : Duration} {first last : Instant}
    (h : d.Gives width first last) (hstart : d.start.isLeap = false)
    (hstop : d.stop.isLeap = false) : d.Holds first last := by
  obtain ⟨seconds, -, hmoved, -⟩ := h.moved
  obtain ⟨hfirst, hfirstNanos⟩ := Instant.unixNanos_of_add? hstart hmoved
  obtain ⟨hlast, hlastNanos⟩ := Instant.unixNanos_of_add? hfirst h.reached
  have hend := (Instant.le_iff_unixNanos hlast hstop).1 h.le_stop
  exact ⟨hfirst, hlast, by omega, by omega, hend⟩

end Dataset

namespace Sampler
variable {d : Dataset}

theorem serves_ofDataset {s : Sampler} (h : ofDataset d = .ok s) : d.Serves s := by
  unfold ofDataset at h
  split at h
  · exact absurd h (by simp)
  · cases h
    exact ⟨rfl, rfl, rfl⟩

theorem runs_draw {α : Type} {x : Draw α} {P : α → Prop} (hx : Always x P) :
    Runs d.Serves (draw x) (fun a s => P a ∧ d.Serves s) d.Serves := by
  apply Runs.modifyGet
  intro s hs
  exact ⟨hx s.generator, hs⟩

theorem since_of_slack {s : Sampler} (hserves : d.Serves s) {width : Duration} {slack : Nat}
    (h : s.slack width = .ok slack) :
    d.stop.since d.start = slack + width.nanos ∧ (slack : Int) ≤ maxTimestamp := by
  obtain ⟨hs, ht, -⟩ := hserves
  unfold Sampler.slack at h
  rw [hs, ht] at h
  dsimp only at h
  split at h
  · exact absurd h (by simp)
  · split at h
    · exact absurd h (by simp)
    · split at h
      · rw [Except.ok.injEq] at h
        omega
      · exact absurd h (by simp)

theorem slack_eq_ok {s : Sampler} (hserves : d.Serves s) (hstart : d.start.isLeap = false)
    (hstop : d.stop.isLeap = false) {width : Duration} {slack : Nat}
    (h : s.slack width = .ok slack) :
    d.start.unixNanos + slack + width.nanos = d.stop.unixNanos ∧ (slack : Int) ≤ maxTimestamp := by
  have length := since_of_slack hserves h
  rw [Instant.since_eq hstop hstart] at length
  omega

theorem orBreak_eq_ok_iff {α : Type} {x : Option α} {a : α} : orBreak x = .ok a ↔ x = some a := by
  cases x <;> simp [orBreak]

theorem place_eq_ok_iff {s : Sampler} {offset : Nat} {width : Duration} {first last : Instant} :
    s.place offset width = .ok (first, last) ↔
      s.start.add? offset = some first ∧ first.add? width.nanos = some last := by
  unfold place
  simp only [bind_eq_ok_iff, orBreak_eq_ok_iff]
  constructor
  · rintro ⟨first', hfirst, last', hlast, h⟩
    obtain ⟨rfl, rfl⟩ := Prod.mk.inj (Except.ok.inj h)
    exact ⟨hfirst, hlast⟩
  · rintro ⟨hfirst, hlast⟩
    exact ⟨first, hfirst, last, hlast, rfl⟩

theorem place_cases (s : Sampler) (offset : Nat) (width : Duration) :
    (∃ w, s.place offset width = .ok w) ∨ s.place offset width = .error .broken := by
  unfold place
  cases s.start.add? offset with
  | none => exact .inr rfl
  | some first =>
    change (∃ w, (orBreak (first.add? width.nanos) >>= _) = .ok w) ∨
      (orBreak (first.add? width.nanos) >>= _) = .error .broken
    cases first.add? width.nanos with
    | none => exact .inr rfl
    | some last => exact .inl ⟨_, rfl⟩

/-- The slack is of a difference that may be short, never long, so a window stays before the end. -/
theorem place_of_offset (hend : d.EndsInCalendar) {s : Sampler} (hserves : d.Serves s)
    {width : Duration} {slack offset : Nat} (hslack : s.slack width = .ok slack)
    (hoffset : offset ≤ slack) :
    ∃ w, s.place (offset - offset % nanosPerSecond) width = .ok w := by
  obtain ⟨length, -⟩ := since_of_slack hserves hslack
  have bound := Instant.since_le d.start d.stop
  have within := Nat.sub_le offset (offset % nanosPerSecond)
  generalize offset - offset % nanosPerSecond = moved at within
  have room : d.start.steadyNanos + (moved : Nat) + width.nanos <
      (maxSecond + 1) * nanosPerSecond := by
    unfold Dataset.EndsInCalendar at hend
    omega
  obtain ⟨first, hfirst⟩ := Instant.exists_add? (t := d.start) (Int.natCast_nonneg moved) (by omega)
  have count := Instant.steadyNanos_of_add? (Int.natCast_nonneg moved) hfirst
  obtain ⟨last, hlast⟩ := Instant.exists_add? (t := first) (Int.natCast_nonneg width.nanos)
    (by omega)
  exact ⟨(first, last), place_eq_ok_iff.2 ⟨hserves.1 ▸ hfirst, hlast⟩⟩

theorem gives_of_offset (hstart : d.start.isLeap = false) (hstop : d.stop.isLeap = false)
    {width : Duration} {slack offset : Nat}
    (hslack : d.start.unixNanos + slack + width.nanos = d.stop.unixNanos)
    (hmax : (slack : Int) ≤ maxTimestamp) (hoffset : offset ≤ slack) :
    ∃ first last, d.start.add? (offset - offset % nanosPerSecond : Nat) = some first ∧
      first.add? width.nanos = some last ∧ d.Gives width first last := by
  have whole : offset - offset % nanosPerSecond = offset / nanosPerSecond * nanosPerSecond := by
    simp only [nanosPerSecond]
    omega
  have within : offset / nanosPerSecond * nanosPerSecond ≤ slack :=
    Nat.le_trans (Nat.div_mul_le_self _ _) hoffset
  rw [whole]
  generalize offset / nanosPerSecond = seconds at within
  obtain ⟨first, hfirst, hfirstSteady, hfirstNanos⟩ := Instant.add?_eq_some hstart
    (seconds * nanosPerSecond : Nat) (a := d.start) (b := d.stop) (by omega) (by omega) hstop
  obtain ⟨last, hlast, hlastSteady, hlastNanos⟩ := Instant.add?_eq_some hfirstSteady
    width.nanos (a := d.start) (b := d.stop) (by omega) (by omega) hstop
  refine ⟨first, last, hfirst, hlast, ⟨seconds, by omega, hfirst, ?_⟩, hlast, ?_, ?_, ?_⟩
  · rw [Instant.since_eq hfirstSteady hstart]
    omega
  · rw [Instant.le_iff_unixNanos hstart hfirstSteady]
    omega
  · rw [Instant.le_iff_unixNanos hlastSteady hstop]
    omega
  · rw [Instant.since_eq hlastSteady hfirstSteady]
    omega

theorem runs_window_of {P : Instant → Instant → Prop} {width : Duration}
    (h : ∀ s slack offset first last, d.Serves s → s.slack width = .ok slack → offset ≤ slack →
      d.start.add? (offset - offset % nanosPerSecond : Nat) = some first →
      first.add? width.nanos = some last → P first last) :
    Runs d.Serves (window width) (fun w s => P w.1 w.2 ∧ d.Serves s) d.Serves := by
  unfold window
  apply Runs.bind Runs.get
  intro s
  apply Runs.fact
  intro hserves
  apply Runs.bind (Runs.ofExcept _)
  intro slack
  apply Runs.fact
  intro hslack
  have hsize : 0 < slack + 1 := Nat.succ_pos slack
  apply Runs.bind (runs_draw (drawBelow_lt .full hsize))
  intro offset
  apply Runs.fact
  intro hlt
  apply (Runs.ofExcept _).imp (fun _ ht => ht)
  rintro ⟨first, last⟩ t ⟨hplace, ht⟩
  obtain ⟨hfirst, hlast⟩ := place_eq_ok_iff.1 hplace
  rw [hserves.1] at hfirst
  exact ⟨h s slack offset first last hserves hslack (Nat.le_of_lt_succ hlt) hfirst hlast, ht⟩

theorem runs_window (hstart : d.start.isLeap = false) (hstop : d.stop.isLeap = false)
    (width : Duration) :
    Runs d.Serves (window width) (fun w s => d.Holds w.1 w.2 ∧ d.Serves s) d.Serves := by
  apply runs_window_of
  intro s slack offset first last hserves hslack hoffset hfirst hlast
  obtain ⟨hfits, hmax⟩ := slack_eq_ok hserves hstart hstop hslack
  obtain ⟨first', last', hfirst', hlast', hgives⟩ :=
    gives_of_offset hstart hstop hfits hmax hoffset
  obtain rfl := Option.some.inj (hfirst.symm.trans hfirst')
  obtain rfl := Option.some.inj (hlast.symm.trans hlast')
  exact hgives.holds hstart hstop

theorem runs_hosts (count : Nat) :
    Runs d.Serves (hosts count) (fun names s => (0 < count ∧
      ∃ ids, Distinct d.scale count ids ∧ names = ids.map Host.hostname) ∧ d.Serves s)
      d.Serves := by
  unfold hosts
  apply Runs.bind Runs.get
  intro s
  apply Runs.fact
  intro hserves
  by_cases hcount : 0 < count ∧ count ≤ s.scale
  · rw [if_pos hcount]
    apply Runs.bind (runs_draw (sample_distinct hcount.2))
    intro ids
    apply Runs.pure
    rintro t ⟨hids, ht⟩
    rw [hserves.2.2] at hids
    exact ⟨⟨hcount.1, ids, hids, rfl⟩, ht⟩
  · rw [if_neg hcount]
    exact Runs.throw fun t ht => ht

end Sampler
end SeriesBench
