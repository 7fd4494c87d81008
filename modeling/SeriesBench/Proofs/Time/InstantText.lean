import SeriesBench.Proofs.Time.DateText
import SeriesBench.Time.Rfc3339

set_option autoImplicit false

namespace SeriesBench.Time.Instant
open SeriesBench.Text

theorem length_padded_two {n : Nat} (h : n < 100) : (padded 2 n).length = 2 :=
  length_padded (by decide) h

theorem expect_cons {c : Char} (hc : isBlank c = false) (s : List Char) :
    expect c (c :: s) = some s := by
  simp only [expect, trimLeft_cons hc, if_true]

theorem fraction_padded {width n : Nat} (hwidth : 0 < width) (hmax : width ≤ 9)
    (hn : n < Nat.pow 10 width) (s : List Char) :
    fraction (padded width n ++ 'Z' :: s) = (n * Nat.pow 10 (9 - width), 'Z' :: s) := by
  have length := length_padded hwidth hn
  have taken : takeDigits 9 (padded width n ++ 'Z' :: s) = (padded width n, 'Z' :: s) := by
    apply takeDigits_append fun c => isDigit_of_mem_padded
    exact .inr ⟨by omega, by simp⟩
  simp only [fraction, taken, ofDigits_padded, length]
  rfl

theorem readOptionalFraction_padded {width n : Nat} (hwidth : 0 < width) (hmax : width ≤ 9)
    (hn : n < Nat.pow 10 width) (s : List Char) :
    readOptionalFraction ('.' :: (padded width n ++ 'Z' :: s)) =
      some (n * Nat.pow 10 (9 - width), 'Z' :: s) := by
  have read := fraction_padded hwidth hmax hn s
  cases h : padded width n with
  | nil => exact absurd h (padded_ne_nil width n)
  | cons c cs =>
    have hc : c.isDigit = true := isDigit_of_mem_padded (h ▸ List.mem_cons_self)
    rw [h] at read
    rw [List.cons_append] at read ⊢
    rw [readOptionalFraction, if_pos hc, read]

theorem readOptionalFraction_fractionText {n : Nat} (hn : n < 1000000000) (s : List Char) :
    readOptionalFraction (fractionText n ++ 'Z' :: s) = some (n, 'Z' :: s) := by
  unfold fractionText
  split
  · subst_vars
    rfl
  · split
    · have whole : n / 1000000 * Nat.pow 10 (9 - 3) = n := by
        change n / 1000000 * 1000000 = n
        omega
      have small : n / 1000000 < Nat.pow 10 3 := by
        change n / 1000000 < 1000
        omega
      rw [List.cons_append, readOptionalFraction_padded (by decide) (by decide) small, whole]
    · split
      · have whole : n / 1000 * Nat.pow 10 (9 - 6) = n := by
          change n / 1000 * 1000 = n
          omega
        have small : n / 1000 < Nat.pow 10 6 := by
          change n / 1000 < 1000000
          omega
        rw [List.cons_append, readOptionalFraction_padded (by decide) (by decide) small, whole]
      · have whole : n * Nat.pow 10 (9 - 9) = n := Nat.mul_one n
        rw [List.cons_append, readOptionalFraction_padded (by decide) (by decide) hn, whole]

def shown (t : Instant) : Nat × Nat :=
  if t.isLeap then (t.secondOfDay.toNat % 60 + 1, t.nanos - nanosPerSecond)
  else (t.secondOfDay.toNat % 60, t.nanos)

theorem bounds_of_mid_minute {t : Instant}
    (h : nanosPerSecond ≤ t.nanos ∧ ¬ t.seconds % 60 = 59) : minSecond ≤ t.seconds + 1 ∧
      t.seconds + 1 ≤ maxSecond ∧ t.nanos - nanosPerSecond < 2 * nanosPerSecond := by
  have hlow := t.min_le_seconds
  have hhigh := t.seconds_le_max
  have hnanos := t.nanos_lt
  simp only [maxSecond] at *
  omega

/-- The instant that the clock shows: a leap second that does not end a minute looks like the second
after it. -/
def onClock (t : Instant) : Instant :=
  if h : nanosPerSecond ≤ t.nanos ∧ ¬ t.seconds % 60 = 59 then
    { seconds := t.seconds + 1
      nanos := t.nanos - nanosPerSecond
      min_le_seconds := (bounds_of_mid_minute h).1
      seconds_le_max := (bounds_of_mid_minute h).2.1
      nanos_lt := (bounds_of_mid_minute h).2.2 }
  else t

/-- Whether a leap second, if the instant is in one, is the last second of a minute. -/
def LeapEndsMinute (t : Instant) : Prop := t.isLeap = true → t.seconds % 60 = 59

theorem onClock_eq_self_iff {t : Instant} : t.onClock = t ↔ t.LeapEndsMinute := by
  rw [LeapEndsMinute, isLeap, decide_eq_true_iff]
  unfold onClock
  split
  · rename_i h
    constructor
    · intro same
      have later : t.seconds + 1 = t.seconds := congrArg Instant.seconds same
      omega
    · intro ends
      exact absurd (ends h.1) h.2
  · rename_i h
    simp only [true_iff]
    intro hleap
    exact Decidable.byContradiction fun hends => h ⟨hleap, hends⟩

theorem clockText_eq (t : Instant) : t.clockText =
    padded 2 (t.secondOfDay.toNat / 3600) ++ ':' :: padded 2 (t.secondOfDay.toNat / 60 % 60) ++
      ':' :: padded 2 t.shown.1 ++ fractionText t.shown.2 := by
  by_cases h : t.isLeap = true
  · simp only [clockText, shown, h, if_true]
  · simp only [clockText, shown, h]
    rfl

theorem shown_bounds (t : Instant) : t.shown.1 ≤ 60 ∧ t.shown.2 < 1000000000 := by
  have hnanos := t.nanos_lt
  unfold nanosPerSecond at hnanos
  by_cases h : t.isLeap = true
  · have leap : t.shown = (t.secondOfDay.toNat % 60 + 1, t.nanos - nanosPerSecond) := if_pos h
    rw [leap]
    unfold nanosPerSecond
    dsimp only
    omega
  · have steady : t.shown = (t.secondOfDay.toNat % 60, t.nanos) := if_neg h
    have small : ¬ nanosPerSecond ≤ t.nanos := by simpa [isLeap] using h
    unfold nanosPerSecond at small
    rw [steady]
    dsimp only
    omega

theorem ofClock?_shown (t : Instant) :
    ofClock? t.date (t.secondOfDay.toNat / 3600) (t.secondOfDay.toNat / 60 % 60) t.shown.1 t.shown.2
      0 = some t.onClock := by
  have low : 0 ≤ t.secondOfDay := Int.emod_nonneg _ (by decide)
  have high : t.secondOfDay < 86400 := Int.emod_lt_of_pos _ (by decide)
  have whole : t.day * secondsPerDay + t.secondOfDay = t.seconds := Int.ediv_mul_add_emod _ _
  have minute : t.seconds % 60 = t.secondOfDay.toNat % 60 := by
    simp only [secondsPerDay] at whole
    omega
  have inDay : t.secondOfDay.toNat / 3600 < 24 ∧ t.secondOfDay.toNat / 60 % 60 < 60 ∧
      t.shown.1 ≤ 60 := ⟨by omega, by omega, t.shown_bounds.1⟩
  have clock (second : Nat) : t.day * secondsPerDay + ((t.secondOfDay.toNat / 3600 * 3600 +
      t.secondOfDay.toNat / 60 % 60 * 60 + second : Nat) : Int) - 0 =
      t.seconds - t.secondOfDay.toNat % 60 + second := by omega
  rw [ofClock?, if_pos inDay, date, Date.toDay_ofDay]
  by_cases h : t.isLeap = true
  · have hnanos : nanosPerSecond ≤ t.nanos := by simpa [isLeap] using h
    by_cases ends : t.seconds % 60 = 59
    · have sixty : t.secondOfDay.toNat % 60 + 1 = 60 := by omega
      have nanos : t.nanos - nanosPerSecond + nanosPerSecond = t.nanos := Nat.sub_add_cancel hnanos
      have seconds : t.seconds - t.secondOfDay.toNat % 60 + (59 : Nat) = t.seconds := by omega
      simp only [shown, h, if_true, sixty, clock, nanos, seconds, ofParts?_self]
      rw [onClock_eq_self_iff.2 fun _ => ends]
    · have notSixty : t.secondOfDay.toNat % 60 + 1 ≠ 60 := by omega
      have seconds : t.seconds - t.secondOfDay.toNat % 60 + (t.secondOfDay.toNat % 60 + 1 : Nat) =
          t.seconds + 1 := by omega
      simp only [shown, h, if_true, notSixty, if_false, clock, seconds]
      rw [onClock, dif_pos ⟨hnanos, ends⟩, ← ofParts?_self]
  · have notSixty : t.secondOfDay.toNat % 60 ≠ 60 := by omega
    have seconds : t.seconds - t.secondOfDay.toNat % 60 + (t.secondOfDay.toNat % 60 : Nat) =
        t.seconds := by omega
    simp only [shown, h, Bool.false_eq_true, if_false, notSixty, clock, seconds, ofParts?_self]
    rw [onClock_eq_self_iff.2 fun hleap => absurd hleap h]

theorem checked?_date (t : Instant) :
    Date.checked? t.date.year t.date.month t.date.day = some t.date := by
  have bounds := t.day_bounds
  exact if_pos ⟨Date.valid_ofDay t.day, Date.year_bounds bounds.1 bounds.2⟩

theorem date_bounds (t : Instant) : t.date.month ≤ 12 ∧ t.date.day ≤ 31 := by
  obtain ⟨-, hmonth, -, hday⟩ : t.date.Valid := Date.valid_ofDay t.day
  have length : Date.monthLength t.date.year t.date.month ≤ 31 := by
    unfold Date.monthLength
    repeat' split
    all_goals omega
  exact ⟨hmonth, Nat.le_trans hday length⟩

theorem zuluText_toList (t : Instant) : t.zuluText.toList =
    Date.yearText t.date.year ++ '-' :: (padded 2 t.date.month ++ '-' :: (padded 2 t.date.day ++
      'T' :: (padded 2 (t.secondOfDay.toNat / 3600) ++ ':' ::
        (padded 2 (t.secondOfDay.toNat / 60 % 60) ++ ':' :: (padded 2 t.shown.1 ++
          (fractionText t.shown.2 ++ ['Z'])))))) := by
  simp only [zuluText, String.toList_ofList, timeText, Date.text, clockText_eq, List.append_assoc,
    List.cons_append]

theorem read?_zuluText (t : Instant) : read? t.zuluText.toList = some t.onClock := by
  obtain ⟨hmonth, hday⟩ := t.date_bounds
  obtain ⟨hsecond, hnanos⟩ := t.shown_bounds
  have high : t.secondOfDay < 86400 := Int.emod_lt_of_pos _ (by decide)
  have hyphen (s : List Char) : expect '-' ('-' :: s) = some s := expect_cons rfl s
  have colon (s : List Char) : expect ':' (':' :: s) = some s := expect_cons rfl s
  have two {n : Nat} (hn : n < 100) (s : List Char) :
      Date.readNumber 2 (padded 2 n ++ s) = some (n, s) :=
    Date.readNumber_padded (length_padded_two hn) s
  rw [zuluText_toList, read?]
  refine Option.bind_eq_some_iff.2 ⟨_, Date.readYear_yearText _ _, ?_⟩
  refine Option.bind_eq_some_iff.2 ⟨_, hyphen _, ?_⟩
  refine Option.bind_eq_some_iff.2 ⟨_, two (by omega) _, ?_⟩
  refine Option.bind_eq_some_iff.2 ⟨_, hyphen _, ?_⟩
  refine Option.bind_eq_some_iff.2 ⟨_, two (by omega) _, ?_⟩
  refine Option.bind_eq_some_iff.2 ⟨_, t.checked?_date, ?_⟩
  refine Option.bind_eq_some_iff.2 ⟨_, rfl, ?_⟩
  refine Option.bind_eq_some_iff.2 ⟨_, two (by omega) _, ?_⟩
  refine Option.bind_eq_some_iff.2 ⟨_, colon _, ?_⟩
  refine Option.bind_eq_some_iff.2 ⟨_, two (by omega) _, ?_⟩
  refine Option.bind_eq_some_iff.2 ⟨_, colon _, ?_⟩
  refine Option.bind_eq_some_iff.2 ⟨_, two (by omega) _, ?_⟩
  refine Option.bind_eq_some_iff.2 ⟨_, readOptionalFraction_fractionText hnanos [], ?_⟩
  refine Option.bind_eq_some_iff.2 ⟨(0, []), rfl, ?_⟩
  exact t.ofClock?_shown

end SeriesBench.Time.Instant
