import SeriesBench.Time.Instant

set_option autoImplicit false

namespace SeriesBench.Time

def nanosPerDay : Int := 86400000000000

namespace Instant
variable {a b t : Instant}

theorem isLeap_eq_false_iff : t.isLeap = false ↔ t.nanos < 1000000000 := by
  unfold isLeap nanosPerSecond
  rw [decide_eq_false_iff_not]
  omega

theorem unixNanos_eq : t.unixNanos = t.seconds * 1000000000 + t.nanos := rfl

theorem lt_of_le_of_lt (h : a ≤ t) (h' : t < b) : a < b := by
  rw [le_iff] at h
  rw [lt_iff] at h' ⊢
  omega

theorem le_iff_unixNanos (ha : a.isLeap = false) (hb : b.isLeap = false) :
    a ≤ b ↔ a.unixNanos ≤ b.unixNanos := by
  rw [isLeap_eq_false_iff] at ha hb
  rw [le_iff, unixNanos_eq, unixNanos_eq]
  omega

theorem lt_iff_unixNanos (ha : a.isLeap = false) (hb : b.isLeap = false) :
    a < b ↔ a.unixNanos < b.unixNanos := by
  rw [← not_le, le_iff_unixNanos hb ha]
  omega

theorem day_eq (ht : t.isLeap = false) : t.day = t.unixNanos / nanosPerDay := by
  rw [isLeap_eq_false_iff] at ht
  rw [unixNanos_eq]
  simp only [day, secondsPerDay, nanosPerDay]
  omega

theorem since_eq (ha : a.isLeap = false) (hb : b.isLeap = false) :
    a.since b = a.unixNanos - b.unixNanos := by
  rw [unixNanos_eq, unixNanos_eq]
  simp only [since, ha, hb, Bool.false_eq_true, and_false, if_false, nanosPerSecond]
  omega

theorem add?_steady (ht : t.isLeap = false) (delta : Int) :
    t.add? delta = ofParts? ((t.unixNanos + delta) / nanosPerSecond)
      ((t.unixNanos + delta) % nanosPerSecond).toNat := by
  simp only [add?, ht, Bool.false_eq_true, false_and, not_false_eq_true, if_true, if_false]

theorem add?_eq_some (ht : t.isLeap = false) (delta : Int)
    (ha : a.unixNanos ≤ t.unixNanos + delta) (hb : t.unixNanos + delta ≤ b.unixNanos)
    (hleap : b.isLeap = false) :
    ∃ u, t.add? delta = some u ∧ u.isLeap = false ∧ u.unixNanos = t.unixNanos + delta := by
  have hlow := a.min_le_seconds
  have hhigh := b.seconds_le_max
  rw [isLeap_eq_false_iff] at hleap
  rw [unixNanos_eq (t := a)] at ha
  rw [unixNanos_eq (t := b)] at hb
  have inside : minSecond ≤ (t.unixNanos + delta) / 1000000000 ∧
      (t.unixNanos + delta) / 1000000000 ≤ maxSecond ∧
      ((t.unixNanos + delta) % 1000000000).toNat < 2 * nanosPerSecond := by
    simp only [nanosPerSecond]
    omega
  refine ⟨⟨_, _, inside.1, inside.2.1, inside.2.2⟩, ?_, ?_, ?_⟩
  · rw [add?_steady ht]
    exact dif_pos inside
  · rw [isLeap_eq_false_iff]
    change ((t.unixNanos + delta) % 1000000000).toNat < 1000000000
    omega
  · change (t.unixNanos + delta) / 1000000000 * 1000000000 +
      ((t.unixNanos + delta) % 1000000000).toNat = t.unixNanos + delta
    omega

theorem unixNanos_of_add? (ht : t.isLeap = false) {delta : Int} {u : Instant}
    (h : t.add? delta = some u) : u.isLeap = false ∧ u.unixNanos = t.unixNanos + delta := by
  rw [add?_steady ht] at h
  obtain ⟨hseconds, hnanos⟩ := of_ofParts? h
  simp only [nanosPerSecond] at hseconds hnanos
  rw [isLeap_eq_false_iff, unixNanos_eq (t := u), hseconds, hnanos]
  omega

theorem add?_zero (ht : t.isLeap = false) : t.add? 0 = some t := by
  have hlt := isLeap_eq_false_iff.1 ht
  have hseconds : t.unixNanos / 1000000000 = t.seconds := by
    rw [unixNanos_eq]
    omega
  have hnanos : (t.unixNanos % 1000000000).toNat = t.nanos := by
    rw [unixNanos_eq]
    omega
  rw [add?_steady ht, Int.add_zero]
  change ofParts? (t.unixNanos / 1000000000) (t.unixNanos % 1000000000).toNat = some t
  rw [hseconds, hnanos]
  exact t.ofParts?_self

theorem add?_of_add? (ht : t.isLeap = false) {x y : Int} {u : Instant} (h : t.add? x = some u) :
    u.add? y = t.add? (x + y) := by
  obtain ⟨hu, hnanos⟩ := unixNanos_of_add? ht h
  rw [add?_steady hu, add?_steady ht, hnanos, Int.add_assoc]

/-- A day has a time between two instants just when it has begun by the second and not ended before
the first. -/
theorem touches_iff (ha : a.isLeap = false) (hb : b.isLeap = false) (hab : a < b) (day : Int) :
    (∃ t : Instant, a ≤ t ∧ t < b ∧ t.day = day) ↔
      a.unixNanos / nanosPerDay ≤ day ∧ day * nanosPerDay < b.unixNanos := by
  have order := (lt_iff_unixNanos ha hb).1 hab
  rw [unixNanos_eq, unixNanos_eq] at *
  rw [isLeap_eq_false_iff] at ha hb
  constructor
  · rintro ⟨t, hat, htb, rfl⟩
    rw [le_iff] at hat
    rw [lt_iff] at htb
    simp only [Instant.day, secondsPerDay, nanosPerDay]
    omega
  · rintro ⟨hfirst, hlast⟩
    simp only [nanosPerDay] at hfirst hlast
    by_cases hday : a.day = day
    · refine ⟨a, ?_, hab, hday⟩
      exact .inr ⟨rfl, Nat.le_refl _⟩
    · have hlow := a.min_le_seconds
      have hhigh := b.seconds_le_max
      simp only [Instant.day, secondsPerDay] at hday
      refine ⟨⟨day * 86400, 0, by omega, by omega, by decide⟩, ?_, ?_, ?_⟩
      · simp only [le_iff]
        omega
      · simp only [lt_iff]
        omega
      · simp only [Instant.day, secondsPerDay]
        omega

end Instant
end SeriesBench.Time
