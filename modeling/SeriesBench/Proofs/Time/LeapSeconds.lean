import SeriesBench.Proofs.Time.Steady

set_option autoImplicit false

/-!
# Time through leap seconds

Instants may be moved forward out of a leap second, and the time between two of them may have one at
either end. Moving adds to the nanoseconds from the epoch if those of a leap second are counted as
those of the second that it extends; the difference of two instants forgets a second if they lie on
different days and the first is in a leap second.
-/
namespace SeriesBench.Time.Instant
variable {t u : Instant} {delta : Int}

/-- The nanoseconds from the epoch, in which a leap second repeats the second that it extends. -/
def steadyNanos (t : Instant) : Int := t.seconds * nanosPerSecond + (t.nanos % nanosPerSecond : Nat)

/-- Whether the way from an instant to a later one begins in a leap second and ends outside of it,
and at no later time of day. -/
def LosesSecond (t u : Instant) : Prop :=
  t.isLeap = true ∧ u.isLeap = false ∧ u.secondOfDay ≤ t.secondOfDay

instance (t u : Instant) : Decidable (LosesSecond t u) := inferInstanceAs (Decidable (_ ∧ _ ∧ _))

theorem isLeap_eq_true_iff : t.isLeap = true ↔ 1000000000 ≤ t.nanos := by
  unfold isLeap nanosPerSecond
  rw [decide_eq_true_iff]

theorem steadyNanos_eq (t : Instant) :
    t.steadyNanos = t.seconds * 1000000000 + (t.nanos % 1000000000 : Nat) := rfl

/-- An instant that is moved forward stays in its leap second if there is still enough of it, and
otherwise moves on from the second that was extended. -/
theorem add?_forward (hdelta : 0 ≤ delta) : t.add? delta =
    if t.isLeap = true ∧ t.nanos + delta < 2000000000 then
      ofParts? t.seconds (t.nanos + delta).toNat
    else ofParts? ((t.steadyNanos + delta) / 1000000000)
      ((t.steadyNanos + delta) % 1000000000).toNat := by
  have hlt := t.nanos_lt
  simp only [nanosPerSecond] at hlt
  unfold add?
  simp only [nanosPerSecond, Int.tdiv_eq_ediv_of_nonneg hdelta, Int.tmod_eq_emod_of_nonneg hdelta]
  by_cases hleap : t.isLeap = true
  · have nanos := isLeap_eq_true_iff.1 hleap
    have back : ¬ delta / 1000000000 < 0 := by omega
    -- The whole seconds and the rest of them leave the second together, just when the sum does.
    have leaves : (0 < delta / 1000000000 ∨ 0 < delta % 1000000000 ∧
        2 * 1000000000 - delta % 1000000000 ≤ (t.nanos : Int)) ↔ ¬ t.nanos + delta < 2000000000 := by
      omega
    simp only [hleap, Int.cast_ofNat_Int, back, leaves, true_and, not_true, not_false_iff, and_true,
      Decidable.not_not, if_false]
    by_cases stays : t.nanos + delta < 2000000000
    · have part : delta % 1000000000 = delta := by omega
      rw [if_pos stays, if_pos stays, part]
    · have count : t.unixNanos - 1000000000 = t.steadyNanos := by
        rw [unixNanos_eq, steadyNanos_eq]
        omega
      rw [if_neg stays, if_neg stays, if_pos stays, count]
  · have count : t.unixNanos = t.steadyNanos := by
      rw [Bool.not_eq_true, isLeap_eq_false_iff] at hleap
      rw [unixNanos_eq, steadyNanos_eq, Nat.mod_eq_of_lt hleap]
    simp only [hleap, Bool.false_eq_true, false_and, not_false_iff, if_true, if_false, count]
    rfl

theorem exists_add? (hdelta : 0 ≤ delta)
    (hend : t.steadyNanos + delta < (maxSecond + 1) * nanosPerSecond) :
    ∃ u, t.add? delta = some u := by
  have hlow := t.min_le_seconds
  have hhigh := t.seconds_le_max
  simp only [nanosPerSecond] at hend
  rw [steadyNanos_eq] at hend
  rw [add?_forward hdelta, steadyNanos_eq]
  split
  · rename_i stays
    rw [isLeap_eq_true_iff] at stays
    refine ⟨_, dif_pos ⟨hlow, hhigh, ?_⟩⟩
    simp only [nanosPerSecond]
    omega
  · refine ⟨_, dif_pos ⟨?_, ?_, ?_⟩⟩
    · omega
    · omega
    · simp only [nanosPerSecond]
      omega

theorem steadyNanos_of_add? (hdelta : 0 ≤ delta) (h : t.add? delta = some u) :
    u.steadyNanos = t.steadyNanos + delta := by
  rw [add?_forward hdelta] at h
  split at h
  · rename_i stays
    rw [isLeap_eq_true_iff] at stays
    obtain ⟨hseconds, hnanos⟩ := of_ofParts? h
    rw [steadyNanos_eq, steadyNanos_eq, hseconds, hnanos]
    omega
  · obtain ⟨hseconds, hnanos⟩ := of_ofParts? h
    rw [steadyNanos_eq u, hseconds, hnanos]
    omega

/-- What is added is what the instants are apart, unless the difference forgets a second. -/
theorem since_of_add? (hdelta : 0 ≤ delta) (h : t.add? delta = some u) :
    u.since t = delta - if LosesSecond t u then 1000000000 else 0 := by
  have hlt := t.nanos_lt
  simp only [nanosPerSecond] at hlt
  rw [add?_forward hdelta, steadyNanos_eq] at h
  unfold since LosesSecond
  simp only [nanosPerSecond]
  split at h
  · rename_i stays
    obtain ⟨hseconds, hnanos⟩ := of_ofParts? h
    have same : u.secondOfDay = t.secondOfDay := by rw [secondOfDay, secondOfDay, hseconds]
    have leap : u.isLeap = true := by
      rw [isLeap_eq_true_iff] at stays ⊢
      omega
    simp only [same, Int.lt_irrefl, false_and, if_false, leap, Bool.true_eq_false, and_false]
    omega
  · rename_i moves
    obtain ⟨hseconds, hnanos⟩ := of_ofParts? h
    have steady : u.isLeap = false := by
      rw [isLeap_eq_false_iff]
      omega
    by_cases hleap : t.isLeap = true
    · have nanos := isLeap_eq_true_iff.1 hleap
      -- The difference only counts the leap second if the later time of day shows that it has passed.
      by_cases later : t.secondOfDay < u.secondOfDay
      · have kept : ¬ u.secondOfDay ≤ t.secondOfDay := by omega
        simp only [hleap, later, kept, and_self, if_true, and_false, if_false]
        omega
      · have lost : u.secondOfDay ≤ t.secondOfDay := by omega
        simp only [hleap, later, lost, steady, Bool.false_eq_true, false_and, and_false, and_self,
          if_true, if_false]
        omega
    · have nanos := hleap
      rw [Bool.not_eq_true, isLeap_eq_false_iff] at nanos
      simp only [hleap, steady, Bool.false_eq_true, and_false, if_false, false_and]
      omega

/-- Between two instants there is no more time than up to the nanoseconds from the epoch of the
second. -/
theorem since_le (t u : Instant) : t.steadyNanos + u.since t ≤ u.unixNanos := by
  have hlt := t.nanos_lt
  simp only [nanosPerSecond] at hlt
  rw [steadyNanos_eq, unixNanos_eq]
  unfold since
  simp only [nanosPerSecond, isLeap_eq_true_iff]
  split
  · omega
  · split <;> omega

theorem add?_neg_one (t : Instant) : t.add? (-1) =
    if t.nanos = 0 then ofParts? (t.seconds - 1) 999999999 else ofParts? t.seconds (t.nanos - 1) := by
  by_cases hleap : t.isLeap = true
  · have nanos := isLeap_eq_true_iff.1 hleap
    have whole : Int.tdiv (-1) nanosPerSecond = 0 := by decide
    have part : Int.tmod (-1) nanosPerSecond = -1 := by decide
    have left : ((t.nanos : Int) + -1).toNat = t.nanos - 1 := by omega
    have inside : t.nanos ≠ 0 := by omega
    rw [add?, if_neg inside]
    simp [whole, part, hleap, left]
  · rw [Bool.not_eq_true] at hleap
    have nanos := isLeap_eq_false_iff.1 hleap
    rw [add?_steady hleap, unixNanos_eq]
    simp only [nanosPerSecond]
    split
    · congr 1 <;> omega
    · congr 1 <;> omega

theorem seconds_before (t : Instant) : ((t.add? (-1)).getD t).seconds =
    if t.nanos = 0 ∧ minSecond < t.seconds then t.seconds - 1 else t.seconds := by
  have hlow := t.min_le_seconds
  have hhigh := t.seconds_le_max
  have hlt := t.nanos_lt
  rw [add?_neg_one]
  by_cases hzero : t.nanos = 0
  · by_cases hmin : minSecond < t.seconds
    · have inside : minSecond ≤ t.seconds - 1 ∧ t.seconds - 1 ≤ maxSecond ∧
          999999999 < 2 * nanosPerSecond := ⟨by omega, by omega, by decide⟩
      rw [if_pos hzero, if_pos ⟨hzero, hmin⟩, ofParts?, dif_pos inside]
      rfl
    · have outside : ¬ (minSecond ≤ t.seconds - 1 ∧ t.seconds - 1 ≤ maxSecond ∧
          999999999 < 2 * nanosPerSecond) := by omega
      rw [if_pos hzero, if_neg (fun h => hmin h.2), ofParts?, dif_neg outside]
      rfl
  · have inside : minSecond ≤ t.seconds ∧ t.seconds ≤ maxSecond ∧
        t.nanos - 1 < 2 * nanosPerSecond := ⟨hlow, hhigh, by omega⟩
    rw [if_neg hzero, if_neg (fun h => hzero h.1), ofParts?, dif_pos inside]
    rfl

theorem day_before_le (h : t ≤ u) :
    ((t.add? (-1)).getD t).day ≤ ((u.add? (-1)).getD u).day := by
  have hlow := t.min_le_seconds
  rw [le_iff] at h
  simp only [day, seconds_before, secondsPerDay]
  split <;> split <;> omega

end SeriesBench.Time.Instant
