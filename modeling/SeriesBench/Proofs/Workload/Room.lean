import SeriesBench.Proofs.Time.LeapSeconds
import SeriesBench.Proofs.Workload.Windows

set_option autoImplicit false

namespace SeriesBench
open SeriesBench.Time SeriesBench.Random

namespace Dataset

def Fits (d : Dataset) (width : Duration) : Prop := width.nanos ≤ d.stop.since d.start

/-- Whether a window leaves more nanoseconds of the dataset than 63 bits can count. -/
def Overruns (d : Dataset) (width : Duration) : Prop :=
  maxTimestamp < d.stop.since d.start - width.nanos

instance (d : Dataset) (width : Duration) : Decidable (d.Fits width) :=
  inferInstanceAs (Decidable (_ ≤ _))

instance (d : Dataset) (width : Duration) : Decidable (d.Overruns width) :=
  inferInstanceAs (Decidable (_ < _))

variable {d : Dataset} {width : Duration}

theorem since_le_longestWindow (d : Dataset) : d.stop.since d.start ≤ Sampler.longestWindow := by
  have bound := Instant.since_le d.start d.stop
  have hlow := d.start.min_le_seconds
  have hhigh := d.stop.seconds_le_max
  have hnanos := d.stop.nanos_lt
  rw [Instant.steadyNanos_eq, Instant.unixNanos_eq] at bound
  simp only [minSecond, maxSecond, nanosPerSecond] at hlow hhigh hnanos
  rw [Sampler.longestWindow]
  omega

theorem hasRoom_iff : d.HasRoom width ↔ d.Fits width ∧ ¬ d.Overruns width := by
  have bound := d.since_le_longestWindow
  unfold HasRoom Fits Overruns
  omega

theorem firstOf_windowFaults_refused {e : WorkloadError} :
    FirstOf (d.windowFaults width) (.refused e) ↔ ¬ d.Underflows width ∧
      (¬ d.Fits width ∨ d.Overruns width) ∧ e = .windowTooLarge d.start d.stop width := by
  have silent : (∀ e : Failure, ¬ (d.Underflows width ∧ e = .broken)) ↔ ¬ d.Underflows width :=
    ⟨fun h hunder => h .broken ⟨hunder, rfl⟩, fun h _ he => h he.1⟩
  simp only [windowFaults, FirstOf, WindowFault, silent, reduceCtorEq, and_false, false_or, or_false,
    Failure.refused.injEq]
  rw [hasRoom_iff, Decidable.not_and_iff_not_or_not, Decidable.not_not]

theorem firstOf_windowFaults_broken :
    FirstOf (d.windowFaults width) .broken ↔ d.Underflows width := by
  simp only [windowFaults, FirstOf, WindowFault, reduceCtorEq, and_false, or_false, and_true]

theorem endsInCalendar_of_timestamp (h : d.stop.timestamp?.isSome = true) :
    d.EndsInCalendar := by
  rw [Instant.timestamp?, Timestamp.ofInt?, Option.isSome_dite] at h
  have bound := h.2
  unfold EndsInCalendar
  simp only [maxTimestamp] at bound
  simp only [maxSecond, nanosPerSecond]
  omega

end Dataset

namespace Sampler
variable {d : Dataset} {s : Sampler}

/-- After any calls, a window is refused just when it is longer than the dataset or leaves more of
it than can be counted, and for no other reason. Only where the dataset lacks more of it than can be
counted the attempt breaks, or where the dataset does not end in the calendar, as one does whose end
can be counted in nanoseconds. -/
theorem refused_iff (h : ofDataset d = .ok s) (calls : List Call) (width : Duration) :
    (∀ e, ((window width).run (s.after calls)).1 = .error (.refused e) ↔
      ¬ d.Underflows width ∧ (¬ d.Fits width ∨ d.Overruns width) ∧
        e = .windowTooLarge d.start d.stop width) ∧
    (d.Underflows width → ((window width).run (s.after calls)).1 = .error .broken) ∧
    (((window width).run (s.after calls)).1 = .error .broken →
      d.Underflows width ∨ ¬ d.EndsInCalendar) ∧
    (d.stop.timestamp?.isSome = true → d.EndsInCalendar) := by
  have serves := serves_after (serves_ofDataset h) calls
  refine ⟨?_, ?_, ?_, Dataset.endsInCalendar_of_timestamp⟩
  · intro e
    rw [← Dataset.firstOf_windowFaults_refused]
    rcases (checked_window width).reports _ serves with reports | ⟨-, hnone, hbroken⟩
    · exact reports (.refused e)
    · simp [hbroken, hnone]
  · intro hunder
    have found := Dataset.firstOf_windowFaults_broken.2 hunder
    rcases (checked_window width).reports _ serves with reports | ⟨-, hnone, -⟩
    · exact (reports .broken).2 found
    · exact absurd found (hnone .broken)
  · intro hbroken
    rcases (checked_window width).reports _ serves with reports | ⟨hrisk, -⟩
    · exact .inl (Dataset.firstOf_windowFaults_broken.1 ((reports .broken).1 hbroken))
    · exact .inr hrisk

end Sampler

/-- From 1684 to 2255, which are times that 63 bits and a sign can count. -/
def agesDataset : Dataset where
  start := Timestamp.instant ⟨-9000000000000000000, by decide⟩
  stop := Timestamp.instant ⟨9000000000000000000, by decide⟩
  scale := 1
  seed := 0

theorem agesDataset_windows : ∃ s, Sampler.ofDataset agesDataset = .ok s ∧
    (∃ w, ((Sampler.window (.ofSeconds 10000000000)).run s).1 = .ok w) ∧
    ((Sampler.window (.ofSeconds 18000000001)).run s).1 = .error
      (.refused (.windowTooLarge agesDataset.start agesDataset.stop (.ofSeconds 18000000001))) := by
  obtain ⟨s, hs⟩ : ∃ s, Sampler.ofDataset agesDataset = .ok s := ⟨_, rfl⟩
  have half : agesDataset.Fits (.ofSeconds 10000000000) := by decide
  have little : ¬ agesDataset.Overruns (.ofSeconds 10000000000) := by decide
  have long : ¬ agesDataset.Fits (.ofSeconds 18000000001) := by decide
  have counted (width : Duration) (h : width.nanos ≤ 18000000001000000000) :
      ¬ agesDataset.Underflows width := by
    rintro ⟨-, hunder⟩
    have length : agesDataset.stop.since agesDataset.start = 18000000000000000000 := by decide
    rw [length, Sampler.longestWindow] at hunder
    omega
  refine ⟨s, hs, ?_, ?_⟩
  · obtain ⟨hrefused, -, hbroken, hend⟩ := Sampler.refused_iff hs [] (.ofSeconds 10000000000)
    cases hresult : ((Sampler.window (.ofSeconds 10000000000)).run s).1 with
    | ok w => exact ⟨w, rfl⟩
    | error e =>
      exfalso
      cases e with
      | refused e =>
        rcases ((hrefused e).1 hresult).2.1 with h | h
        · exact h half
        · exact little h
      | broken =>
        rcases hbroken hresult with h | h
        · exact counted _ (by decide) h
        · exact h (hend rfl)
  · exact ((Sampler.refused_iff hs [] _).1 _).2 ⟨counted _ (by decide), .inl long, rfl⟩

/-- An hour fits in the dataset and is refused as longer than it. -/
theorem agesDataset_refuses_hour : ∃ s, Sampler.ofDataset agesDataset = .ok s ∧
    agesDataset.start.timestamp?.isSome = true ∧ agesDataset.stop.timestamp?.isSome = true ∧
    agesDataset.Fits (.ofSeconds 3600) ∧ ((Sampler.window (.ofSeconds 3600)).run s).1 = .error
      (.refused (.windowTooLarge agesDataset.start agesDataset.stop (.ofSeconds 3600))) :=
  ⟨_, rfl, rfl, rfl, by decide, rfl⟩

end SeriesBench
