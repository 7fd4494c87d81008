import SeriesBench.Proofs.Text.Digits
import SeriesBench.Proofs.Time.Calendar

set_option autoImplicit false

namespace SeriesBench.Time.Date
open SeriesBench.Text

theorem readNumber_padded {width n : Nat} (hlength : (padded width n).length = width)
    (rest : List Char) : readNumber width (padded width n ++ rest) = some (n, rest) := by
  unfold readNumber
  rw [trimLeft_padded, takeDigits_append (fun c => isDigit_of_mem_padded) (.inl hlength)]
  cases h : padded width n with
  | nil => exact absurd h (padded_ne_nil width n)
  | cons c cs =>
    have value := ofDigits_padded width n
    rw [h] at value
    simp only [value]

theorem readDigitRun_padded (width n : Nat) {rest : List Char}
    (hrest : ∀ c ∈ rest.head?, c.isDigit = false) :
    readYear.readDigitRun (padded width n ++ rest) = some (n, rest) := by
  unfold readYear.readDigitRun
  have hlimit : (padded width n).length ≤ (padded width n ++ rest).length := by simp
  rw [takeDigits_append (fun c => isDigit_of_mem_padded) (.inr ⟨hlimit, hrest⟩)]
  cases h : padded width n with
  | nil => exact absurd h (padded_ne_nil width n)
  | cons c cs =>
    have value := ofDigits_padded width n
    rw [h] at value
    simp only [value]

theorem readYear_yearText (year : Int) (rest : List Char) :
    readYear (yearText year ++ '-' :: rest) = some (year, '-' :: rest) := by
  have stops : ∀ c ∈ ('-' :: rest).head?, c.isDigit = false := by simp
  unfold yearText
  split
  · rename_i hneg
    have value : -((year.natAbs : Nat) : Int) = year := by omega
    rw [List.cons_append, readYear, trimLeft_cons rfl]
    simp only [readDigitRun_padded 4 year.natAbs stops, Option.map_some, value]
  · rename_i hpos
    have value : ((year.natAbs : Nat) : Int) = year := by omega
    split
    · have hlength : (padded 4 year.natAbs).length = 4 := by
        apply length_padded (by decide)
        change year.natAbs < 10000
        omega
      rw [readYear, trimLeft_padded]
      split
      · rename_i heq
        exact absurd heq (padded_append_ne_cons rfl _ _)
      · rename_i heq
        exact absurd heq (padded_append_ne_cons rfl _ _)
      · simp only [readNumber_padded hlength, Option.map_some, value]
    · rw [List.cons_append, readYear, trimLeft_cons rfl]
      simp only [readDigitRun_padded 4 year.natAbs stops, Option.map_some, value]

theorem read?_text {d : Date} (hvalid : d.Valid) (hlow : minYear ≤ d.year)
    (hhigh : d.year ≤ maxYear) : read? d.text = some d := by
  have two {n : Nat} (h : n ≤ 31) : (padded 2 n).length = 2 := by
    apply length_padded (by decide)
    change n < 100
    omega
  have hchecked := And.intro hvalid (And.intro hlow hhigh)
  obtain ⟨-, hmonth, -, hday⟩ := hvalid
  have hlength : monthLength d.year d.month ≤ 31 := by
    unfold monthLength
    repeat' split
    all_goals omega
  have checked : checked? d.year d.month d.day = some d := by
    unfold checked?
    exact if_pos hchecked
  have lastPart : readNumber 2 (padded 2 d.day) = some (d.day, []) := by
    have := readNumber_padded (two (by omega : d.day ≤ 31)) []
    rwa [List.append_nil] at this
  simp only [read?, text, List.append_assoc, List.cons_append, readYear_yearText, read?.expect,
    readNumber_padded (two (by omega : d.month ≤ 31)), lastPart, Option.bind_eq_bind,
    Option.bind_some, List.isEmpty_nil, if_true, checked]

end SeriesBench.Time.Date
