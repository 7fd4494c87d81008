import SeriesBench.Proofs.Workload.Refusals

set_option autoImplicit false

namespace SeriesBench
open SeriesBench.Time SeriesBench.Random

namespace Sampler

inductive Call where
  | window (width : Duration)
  | hosts (count : Nat)

def afterCall (s : Sampler) : Call → Sampler
  | .window width => ((window width).run s).2
  | .hosts count => ((hosts count).run s).2

/-- The sampler that calls leave, some of which may have failed. -/
def after (s : Sampler) (calls : List Call) : Sampler := calls.foldl afterCall s

end Sampler

namespace Dataset

/-- The length of the dataset, and what a window leaves of it or lacks in it, can be counted in
milliseconds of 63 bits and a sign. -/
structure Measures (d : Dataset) (width : Duration) : Prop where
  whole : 0 ≤ d.stop.since d.start ∧ d.stop.since d.start ≤ Sampler.longestWindow
  rest : width.nanos ≤ Sampler.longestWindow →
    -(Sampler.longestWindow : Int) ≤ d.stop.since d.start - width.nanos ∧
      d.stop.since d.start - width.nanos ≤ Sampler.longestWindow

variable {d : Dataset} {s : Sampler} {width : Duration}

theorem unixNanos_le_of_ofDataset (hstart : d.start.isLeap = false)
    (hstop : d.stop.isLeap = false) (h : Sampler.ofDataset d = .ok s) :
    d.start.unixNanos ≤ d.stop.unixNanos := by
  unfold Sampler.ofDataset at h
  split at h
  · exact absurd h (by simp)
  · rename_i hnot
    rw [Instant.lt_iff_unixNanos hstop hstart] at hnot
    omega

theorem measures_of_ofDataset (hstart : d.start.isLeap = false) (hstop : d.stop.isLeap = false)
    (h : Sampler.ofDataset d = .ok s) (width : Duration) : d.Measures width := by
  have order := unixNanos_le_of_ofDataset hstart hstop h
  have hlow := d.start.min_le_seconds
  have hhigh := d.stop.seconds_le_max
  have hsecond := Instant.isLeap_eq_false_iff.1 hstop
  have hspan := Instant.since_eq hstop hstart
  rw [Instant.unixNanos_eq, Instant.unixNanos_eq] at order hspan
  simp only [minSecond, maxSecond] at hlow hhigh
  constructor
  · rw [Sampler.longestWindow]
    omega
  · rw [Sampler.longestWindow]
    omega

end Dataset

namespace Sampler
variable {d : Dataset} {s : Sampler} {width : Duration}

theorem serves_afterCall (h : d.Serves s) (call : Call) : d.Serves (s.afterCall call) := by
  have kept {α : Type} {x : Sampling α}
      (hx : Runs d.Serves x (fun _ s => d.Serves s) d.Serves) : d.Serves (x.run s).2 := by
    obtain ⟨hok, herror⟩ := hx s h
    cases hresult : (x.run s).1 with
    | ok a => exact hok a hresult
    | error e => exact herror e hresult
  cases call with
  | window width => exact kept (checked_window width).runs
  | hosts count => exact kept ((runs_hosts count).imp (fun _ hs => hs) fun _ _ h => h.2)

theorem run_window (s : Sampler) (width : Duration) : (window width).run s =
    match s.slack width with
    | .error e => (.error e, s)
    | .ok slack =>
      let (offset, generator) := (drawBelow .full (slack + 1)).run s.generator
      (s.place (offset - offset % nanosPerSecond) width, { s with generator }) := by
  unfold window
  rw [run_bind]
  change (MonadExcept.ofExcept (s.slack width) >>= _ : Sampling (Instant × Instant)).run s = _
  rw [run_bind, Checked.run_ofExcept]
  cases s.slack width with
  | error e => rfl
  | ok slack =>
    change (draw (drawBelow .full (slack + 1)) >>= _ : Sampling (Instant × Instant)).run s = _
    rw [run_bind]
    exact Checked.run_ofExcept _ _

theorem not_underflows (hstart : d.start.isLeap = false) (hstop : d.stop.isLeap = false)
    (h : d.start.unixNanos ≤ d.stop.unixNanos) (width : Duration) : ¬ d.Underflows width := by
  intro hunder
  have length := Instant.since_eq hstop hstart
  unfold Dataset.Underflows at hunder
  omega

theorem run_window_cases (hstart : d.start.isLeap = false) (hstop : d.stop.isLeap = false)
    (horder : d.start.unixNanos ≤ d.stop.unixNanos) (hs : d.Serves s) (width : Duration) :
    (¬ d.HasRoom width ∧ (window width).run s =
      (.error (.refused (.windowTooLarge d.start d.stop width)), s)) ∨
    (d.HasRoom width ∧ ∃ first last generator,
      (window width).run s = (.ok (first, last), { s with generator }) ∧
      d.Gives width first last) := by
  have reports := slack_reports hs width
  rw [run_window]
  cases hslack : s.slack width with
  | error e =>
    rcases (reports e).1 hslack with ⟨hunder, -⟩ | ⟨-, ⟨small, rfl⟩ | ⟨-, he⟩⟩
    · exact absurd hunder (not_underflows hstart hstop horder width)
    · exact .inl ⟨small, rfl⟩
    · exact he.elim
  | ok slack =>
    have room : d.HasRoom width := by
      by_contra small
      exact reports.none_of_ok hslack (d.WindowFault width) (by simp [Dataset.windowFaults]) _
        ⟨small, rfl⟩
    obtain ⟨hfits, hmax⟩ := slack_eq_ok hs hstart hstop hslack
    have hsize : 0 < slack + 1 := Nat.succ_pos slack
    have hlt := drawBelow_lt .full hsize s.generator
    dsimp only
    generalize (drawBelow .full (slack + 1)).run s.generator = drawn at hlt
    obtain ⟨offset, generator⟩ := drawn
    obtain ⟨first, last, hfirst, hlast, hgives⟩ :=
      gives_of_offset hstart hstop hfits hmax (Nat.le_of_lt_succ hlt)
    rw [← hs.1] at hfirst
    refine .inr ⟨room, first, last, generator, ?_, hgives⟩
    exact congrArg (·, _) (place_eq_ok_iff.2 ⟨hfirst, hlast⟩)

theorem serves_after (h : d.Serves s) (calls : List Call) : d.Serves (s.after calls) := by
  induction calls generalizing s with
  | nil => exact h
  | cons call rest ih => exact ih (serves_afterCall h call)

/-- After any calls a window is either refused, and the sampler left alone, or given inside the
dataset; in no case does the arithmetic overflow. -/
theorem windows_inside (hstart : d.start.isLeap = false) (hstop : d.stop.isLeap = false)
    (h : ofDataset d = .ok s) (calls : List Call) (width : Duration) :
    d.Measures width ∧
    ((¬ d.HasRoom width ∧ (window width).run (s.after calls) =
        (.error (.refused (.windowTooLarge d.start d.stop width)), s.after calls)) ∨
      (d.HasRoom width ∧ ∃ first last generator, (window width).run (s.after calls) =
        (.ok (first, last), { s.after calls with generator }) ∧ d.Gives width first last)) :=
  ⟨d.measures_of_ofDataset hstart hstop h width,
    run_window_cases hstart hstop (Dataset.unixNanos_le_of_ofDataset hstart hstop h)
      (serves_after (serves_ofDataset h) calls) width⟩

end Sampler

def hourDataset : Dataset where
  start := Timestamp.instant ⟨-250000000, by decide⟩
  stop := Timestamp.instant ⟨3601250000000, by decide⟩
  scale := 4
  seed := 5

def hourCalls : List Sampler.Call :=
  [.window (.ofSeconds 60), .hosts 3, .window (.ofSeconds 3602), .hosts 5]

theorem hour_windows_inside : ∃ s first last generator, Sampler.ofDataset hourDataset = .ok s ∧
    (Sampler.window (.ofSeconds 3600)).run (s.after hourCalls) =
      (.ok (first, last), { s.after hourCalls with generator }) ∧
    hourDataset.Gives (.ofSeconds 3600) first last ∧
    (Sampler.window (.ofSeconds 3602)).run (s.after hourCalls) =
      (.error (.refused (.windowTooLarge hourDataset.start hourDataset.stop (.ofSeconds 3602))),
        s.after hourCalls) := by
  obtain ⟨s, hs⟩ : ∃ s, Sampler.ofDataset hourDataset = .ok s := ⟨_, rfl⟩
  have room : hourDataset.HasRoom (.ofSeconds 3600) := ⟨by decide, by decide, by decide⟩
  have small : ¬ hourDataset.HasRoom (.ofSeconds 3602) := fun h => absurd h.2.1 (by decide)
  have given := (Sampler.windows_inside rfl rfl hs hourCalls (.ofSeconds 3600)).2
  have refused := (Sampler.windows_inside rfl rfl hs hourCalls (.ofSeconds 3602)).2
  obtain ⟨-, first, last, generator, hrun, hgives⟩ := given.resolve_left fun h => h.1 room
  obtain ⟨-, hsame⟩ := refused.resolve_right fun h => small h.1
  exact ⟨s, first, last, generator, hs, hrun, hgives, hsame⟩

end SeriesBench
