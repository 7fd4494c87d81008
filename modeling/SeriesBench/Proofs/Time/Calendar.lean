import SeriesBench.Time.Instant

set_option autoImplicit false

namespace SeriesBench.Time
namespace Date

theorem daysOfMonths_twelve (year : Int) :
    daysOfMonths year 12 = if isLeap year then 366 else 365 := by
  simp only [daysOfMonths, monthLength]
  split <;> rfl

theorem yearOf_spec (n : Int) :
    daysBeforeYear (yearOf n).1 + (yearOf n).2 = n ∧
      (yearOf n).2 < daysOfMonths (yearOf n).1 12 := by
  have era : 0 ≤ n % 146097 ∧ n % 146097 < 146097 ∧ n = 146097 * (n / 146097) + n % 146097 := by
    omega
  simp only [yearOf]
  generalize n / 146097 = e at era
  generalize n % 146097 = inEra at era
  obtain ⟨hlow, hhigh, rfl⟩ := era
  have century : 0 ≤ min (inEra / 36524) 3 ∧ min (inEra / 36524) 3 ≤ 3 ∧
      0 ≤ inEra - 36524 * min (inEra / 36524) 3 ∧
      inEra - 36524 * min (inEra / 36524) 3 ≤ 36524 ∧
      (min (inEra / 36524) 3 < 3 → inEra - 36524 * min (inEra / 36524) 3 < 36524) := by omega
  generalize min (inEra / 36524) 3 = c at century
  generalize hr : inEra - 36524 * c = inCentury at century
  have cycle : 0 ≤ inCentury / 1461 ∧ inCentury / 1461 ≤ 24 ∧
      0 ≤ inCentury - 1461 * (inCentury / 1461) ∧
      inCentury - 1461 * (inCentury / 1461) ≤ 1460 ∧
      (c < 3 → inCentury / 1461 = 24 → inCentury - 1461 * (inCentury / 1461) < 1460) := by omega
  generalize inCentury / 1461 = l at cycle
  generalize hs : inCentury - 1461 * l = inCycle at cycle
  have year : 0 ≤ min (inCycle / 365) 3 ∧ min (inCycle / 365) 3 ≤ 3 ∧
      0 ≤ inCycle - 365 * min (inCycle / 365) 3 ∧
      inCycle - 365 * min (inCycle / 365) 3 ≤ 365 ∧
      (inCycle < 1460 → inCycle - 365 * min (inCycle / 365) 3 < 365) ∧
      (min (inCycle / 365) 3 < 3 → inCycle - 365 * min (inCycle / 365) 3 < 365) := by omega
  generalize min (inCycle / 365) 3 = y at year
  have quarter : (400 * e + 100 * c + 4 * l + y + 1 - 1) / 4 = 100 * e + 25 * c + l := by omega
  have hundred : (400 * e + 100 * c + 4 * l + y + 1 - 1) / 100 = 4 * e + c := by omega
  have fourHundred : (400 * e + 100 * c + 4 * l + y + 1 - 1) / 400 = e := by omega
  constructor
  · simp only [daysBeforeYear, quarter, hundred, fourHundred]
    omega
  · rw [daysOfMonths_twelve]
    split
    · omega
    · rename_i hleap
      simp only [isLeap, Bool.and_eq_true, Bool.or_eq_true, beq_iff_eq, bne_iff_ne, ne_eq,
        not_and, not_or] at hleap
      omega

/-- What a search from `month` on finds: the month that holds a day of the year. -/
theorem monthAndDay_spec (year : Int) (later month rest : Nat) (hmonth : 1 ≤ month)
    (hrest : daysOfMonths year (month - 1) + rest < daysOfMonths year (month + later)) :
    month ≤ (monthAndDay year later month rest).1 ∧
    (monthAndDay year later month rest).1 ≤ month + later ∧
    1 ≤ (monthAndDay year later month rest).2 ∧
    (monthAndDay year later month rest).2 ≤
      monthLength year (monthAndDay year later month rest).1 ∧
    daysOfMonths year ((monthAndDay year later month rest).1 - 1) +
      ((monthAndDay year later month rest).2 - 1) = daysOfMonths year (month - 1) + rest := by
  obtain ⟨before, rfl⟩ : ∃ before, month = before + 1 := ⟨month - 1, by omega⟩
  induction later generalizing before rest with
  | zero =>
    have step : daysOfMonths year (before + 1) =
        daysOfMonths year before + monthLength year (before + 1) := rfl
    simp only [Nat.add_sub_cancel, Nat.add_zero] at hrest
    simp only [monthAndDay, Nat.add_sub_cancel, and_true]
    omega
  | succ later ih =>
    simp only [monthAndDay]
    by_cases h : rest < monthLength year (before + 1)
    · rw [if_pos h]
      simp only [Nat.add_sub_cancel, and_true]
      omega
    · rw [if_neg h]
      simp only [Nat.add_sub_cancel] at hrest ih ⊢
      have step : daysOfMonths year (before + 1) =
          daysOfMonths year before + monthLength year (before + 1) := rfl
      have shift : before + 1 + 1 + later = before + 1 + (later + 1) := by omega
      have found := ih (rest - monthLength year (before + 1)) (before + 1) (by omega)
        (by rw [shift]; omega)
      omega

theorem ofDay_spec (n : Int) :
    (ofDay n).year = (yearOf (n + epochOffset)).1 ∧ 1 ≤ (ofDay n).month ∧ (ofDay n).month ≤ 12 ∧
    1 ≤ (ofDay n).day ∧ (ofDay n).day ≤ monthLength (ofDay n).year (ofDay n).month ∧
    daysOfMonths (ofDay n).year ((ofDay n).month - 1) + ((ofDay n).day - 1) =
      (yearOf (n + epochOffset)).2 := by
  have hyear := (yearOf_spec (n + epochOffset)).2
  have hmonth := monthAndDay_spec (yearOf (n + epochOffset)).1 11 1 (yearOf (n + epochOffset)).2
    (Nat.le_refl 1) (by simpa only [Nat.sub_self, daysOfMonths, Nat.zero_add] using hyear)
  simp only [Nat.sub_self, daysOfMonths, Nat.zero_add] at hmonth
  exact ⟨rfl, hmonth⟩

theorem valid_ofDay (n : Int) : (ofDay n).Valid := by
  obtain ⟨-, hlow, hhigh, hday, hlength, -⟩ := ofDay_spec n
  exact ⟨hlow, hhigh, hday, hlength⟩

theorem toDay_ofDay (n : Int) : (ofDay n).toDay = n := by
  obtain ⟨hyear, -, -, hday, -, hrest⟩ := ofDay_spec n
  have hsum := (yearOf_spec (n + epochOffset)).1
  rw [← hyear, ← hrest] at hsum
  unfold toDay
  omega

end Date

theorem Instant.day_bounds (t : Instant) : -96465292 ≤ t.day ∧ t.day ≤ 95026236 := by
  have hlow := t.min_le_seconds
  have hhigh := t.seconds_le_max
  simp only [Instant.day, minSecond, maxSecond, secondsPerDay] at *
  omega

theorem Date.daysBeforeYear_mono {a b : Int} (h : a ≤ b) :
    daysBeforeYear a ≤ daysBeforeYear b := by
  unfold daysBeforeYear
  omega

theorem Date.daysBeforeYear_succ (year : Int) :
    daysBeforeYear (year + 1) = daysBeforeYear year + daysOfMonths year 12 := by
  have later : year + 1 - 1 = year := by omega
  rw [daysOfMonths_twelve]
  unfold daysBeforeYear
  rw [later]
  split
  · rename_i h
    simp only [isLeap, Bool.and_eq_true, Bool.or_eq_true, beq_iff_eq, bne_iff_ne, ne_eq] at h
    omega
  · rename_i h
    simp only [isLeap, Bool.and_eq_true, Bool.or_eq_true, beq_iff_eq, bne_iff_ne, ne_eq, not_and,
      not_or] at h
    omega

theorem Date.year_bounds {n : Int} (hlow : -96465292 ≤ n) (hhigh : n ≤ 95026236) :
    minYear ≤ (ofDay n).year ∧ (ofDay n).year ≤ maxYear := by
  obtain ⟨hyear, -⟩ := ofDay_spec n
  obtain ⟨hsum, hrest⟩ := yearOf_spec (n + epochOffset)
  rw [← hyear] at hsum hrest
  have next := daysBeforeYear_succ (ofDay n).year
  have first : daysBeforeYear minYear = -95746130 := by decide
  have last : daysBeforeYear (maxYear + 1) = 95745399 := by decide
  simp only [epochOffset] at hsum hrest
  constructor
  · refine Decidable.byContradiction fun hearly => ?_
    have := daysBeforeYear_mono (a := (ofDay n).year + 1) (b := minYear) (by omega)
    omega
  · refine Decidable.byContradiction fun hlate => ?_
    have := daysBeforeYear_mono (a := maxYear + 1) (b := (ofDay n).year) (by omega)
    omega

end SeriesBench.Time
