import SeriesBench.Proofs.Success
import SeriesBench.Proofs.Text.Digits

set_option autoImplicit false

namespace SeriesBench.Text

theorem readDigits_eq_ok_iff {bound n m : Nat} {beyond : NumberFault} {ds : List Char}
    (hn : n ≤ bound) : readDigits bound beyond ds n = .ok m ↔
      (∀ c ∈ ds, c.isDigit = true) ∧ Nat.ofDigitChars 10 ds n = m ∧ m ≤ bound := by
  constructor
  · intro h
    induction ds generalizing n with
    | nil =>
      obtain rfl := Except.ok.inj h
      exact ⟨by simp, rfl, hn⟩
    | cons d ds ih =>
      rw [readDigits] at h
      split at h
      · rename_i hd
        split at h
        · rename_i within
          obtain ⟨hds, hvalue, hm⟩ := ih within h
          exact ⟨List.forall_mem_cons.2 ⟨hd, hds⟩, hvalue, hm⟩
        · exact absurd h (by simp)
      · exact absurd h (by simp)
  · rintro ⟨hds, rfl, hm⟩
    exact readDigits_eq_ok hds hm

def IsDigits (ds : List Char) : Prop := ds ≠ [] ∧ ∀ c ∈ ds, c.isDigit = true

theorem isDigits_digits (n : Nat) : IsDigits (digits n) :=
  ⟨digits_ne_nil n, fun _ => isDigit_of_mem_digits⟩

theorem not_isDigits_cons {c : Char} (hc : c.isDigit = false) (ds : List Char) :
    ¬ IsDigits (c :: ds) := by
  intro h
  rw [h.2 c (by simp)] at hc
  exact absurd hc (by simp)

theorem readDigits_zero_eq_ok_iff {bound m : Nat} {beyond : NumberFault} {ds : List Char}
    (hds : ds ≠ []) :
    readDigits bound beyond ds 0 = .ok m ↔ IsDigits ds ∧ ofDigits ds = m ∧ m ≤ bound := by
  rw [readDigits_eq_ok_iff (Nat.zero_le bound), IsDigits, and_iff_right hds]
  rfl

/-- How a whole number may be written: in digits, with leading zeros or without them, and behind a
sign or without one. -/
inductive Numeral : List Char → Int → Prop where
  | plain {ds : List Char} (h : IsDigits ds) : Numeral ds (ofDigits ds)
  | plus {ds : List Char} (h : IsDigits ds) : Numeral ('+' :: ds) (ofDigits ds)
  | minus {ds : List Char} (h : IsDigits ds) : Numeral ('-' :: ds) (-(ofDigits ds : Int))

theorem numeral_signed (n : Int) : Numeral (signed n) n := by
  unfold signed
  split
  · have value : -(n.natAbs : Int) = n := by omega
    have numeral := Numeral.minus (isDigits_digits n.natAbs)
    rwa [ofDigits_digits, value] at numeral
  · have value : (n.natAbs : Int) = n := by omega
    have numeral := Numeral.plain (isDigits_digits n.natAbs)
    rwa [ofDigits_digits, value] at numeral

section Signs
variable {below above : Nat} {ds : List Char} {n : Int}

theorem numeral_plus_iff : Numeral ('+' :: ds) n ↔ IsDigits ds ∧ (ofDigits ds : Int) = n := by
  constructor
  · intro h
    cases h with
    | plain h => exact absurd h (not_isDigits_cons rfl ds)
    | plus h => exact ⟨h, rfl⟩
  · rintro ⟨h, rfl⟩
    exact .plus h

theorem numeral_minus_iff : Numeral ('-' :: ds) n ↔ IsDigits ds ∧ -(ofDigits ds : Int) = n := by
  constructor
  · intro h
    cases h with
    | plain h => exact absurd h (not_isDigits_cons rfl ds)
    | minus h => exact ⟨h, rfl⟩
  · rintro ⟨h, rfl⟩
    exact .minus h

theorem numeral_plain_iff {c : Char} (hplus : c ≠ '+') (hminus : c ≠ '-') :
    Numeral (c :: ds) n ↔ IsDigits (c :: ds) ∧ (ofDigits (c :: ds) : Int) = n := by
  constructor
  · intro h
    cases h with
    | plain h => exact ⟨h, rfl⟩
    | plus h => exact absurd rfl hplus
    | minus h => exact absurd rfl hminus
  · rintro ⟨h, rfl⟩
    exact .plain h

theorem map_readDigits_eq_ok_iff {bound : Nat} {beyond : NumberFault} (hds : ds ≠ []) :
    (readDigits bound beyond ds 0).map Int.ofNat = .ok n ↔
      (IsDigits ds ∧ (ofDigits ds : Int) = n) ∧ n ≤ bound := by
  rw [map_eq_ok_iff]
  simp only [readDigits_zero_eq_ok_iff hds]
  constructor
  · rintro ⟨m, ⟨hdigits, rfl, hm⟩, rfl⟩
    exact ⟨⟨hdigits, rfl⟩, Int.ofNat_le.2 hm⟩
  · rintro ⟨⟨hdigits, rfl⟩, hm⟩
    exact ⟨_, ⟨hdigits, rfl, Int.ofNat_le.1 hm⟩, rfl⟩

theorem readInt_plus_eq_ok_iff :
    readInt below above ('+' :: ds) = .ok n ↔ Numeral ('+' :: ds) n ∧ n ≤ above := by
  rw [numeral_plus_iff]
  cases ds with
  | nil => simp [readInt, IsDigits]
  | cons d ds => exact map_readDigits_eq_ok_iff (List.cons_ne_nil d ds)

theorem readInt_minus_eq_ok_iff :
    readInt below above ('-' :: ds) = .ok n ↔ Numeral ('-' :: ds) n ∧ -(below : Int) ≤ n := by
  rw [numeral_minus_iff]
  cases ds with
  | nil => simp [readInt, IsDigits]
  | cons d ds =>
    have step : readInt below above ('-' :: d :: ds) =
        (readDigits below .tooSmall (d :: ds) 0).map fun m => -(m : Int) := rfl
    rw [step, map_eq_ok_iff]
    simp only [bind_eq_ok_iff, readDigits_zero_eq_ok_iff (List.cons_ne_nil d ds)]
    constructor
    · rintro ⟨_, ⟨m, ⟨hdigits, rfl, hm⟩, hcast⟩, rfl⟩
      obtain rfl := Except.ok.inj hcast
      exact ⟨⟨hdigits, rfl⟩, by omega⟩
    · rintro ⟨⟨hdigits, rfl⟩, hm⟩
      exact ⟨_, ⟨_, ⟨hdigits, rfl, by omega⟩, rfl⟩, rfl⟩

theorem readInt_plain_eq_ok_iff {c : Char} (hplus : c ≠ '+') (hminus : c ≠ '-') :
    readInt below above (c :: ds) = .ok n ↔ Numeral (c :: ds) n ∧ n ≤ above := by
  have step : readInt below above (c :: ds) =
      (readDigits above .tooLarge (c :: ds) 0).map Int.ofNat := by
    unfold readInt
    split
    case h_6 => rfl
    all_goals simp_all
  rw [step, numeral_plain_iff hplus hminus, map_readDigits_eq_ok_iff (List.cons_ne_nil c ds)]

end Signs

/-- Just the numerals of numbers within the bounds are read. -/
theorem readInt_eq_ok_iff {below above : Nat} {s : List Char} {n : Int} :
    readInt below above s = .ok n ↔ Numeral s n ∧ -(below : Int) ≤ n ∧ n ≤ above := by
  have natural {ds : List Char} (h : (ofDigits ds : Int) = n) : -(below : Int) ≤ n := by omega
  have negated {ds : List Char} (h : -(ofDigits ds : Int) = n) : n ≤ above := by omega
  cases s with
  | nil =>
    have none : ¬ Numeral [] n := by
      intro h
      cases h with
      | plain h => exact h.1 rfl
    simp [readInt, none]
  | cons c ds =>
    by_cases hplus : c = '+'
    · subst hplus
      rw [readInt_plus_eq_ok_iff]
      refine and_congr_right fun h => (and_iff_right ?_).symm
      exact natural (numeral_plus_iff.1 h).2
    by_cases hminus : c = '-'
    · subst hminus
      rw [readInt_minus_eq_ok_iff]
      refine and_congr_right fun h => (and_iff_left ?_).symm
      exact negated (numeral_minus_iff.1 h).2
    · rw [readInt_plain_eq_ok_iff hplus hminus]
      refine and_congr_right fun h => (and_iff_right ?_).symm
      exact natural ((numeral_plain_iff hplus hminus).1 h).2

theorem readInt_signed {below above : Nat} {n : Int} (hlow : -(below : Int) ≤ n)
    (hhigh : n ≤ above) : readInt below above (signed n) = .ok n :=
  readInt_eq_ok_iff.2 ⟨numeral_signed n, hlow, hhigh⟩

end SeriesBench.Text
