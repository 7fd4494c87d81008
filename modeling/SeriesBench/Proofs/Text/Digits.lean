import SeriesBench.Text.Blank
import SeriesBench.Text.Number

set_option autoImplicit false

namespace SeriesBench.Text

theorem isDigit_of_mem_digits {n : Nat} {c : Char} (h : c ∈ digits n) : c.isDigit = true :=
  Nat.isDigit_of_mem_toDigits (by decide) (by decide) h

theorem isDigit_of_mem_padded {width n : Nat} {c : Char} (h : c ∈ padded width n) :
    c.isDigit = true := by
  rcases List.mem_append.1 h with h | h
  · rw [List.eq_of_mem_replicate h]
    rfl
  · exact isDigit_of_mem_digits h

theorem ofDigits_padded (width n : Nat) : ofDigits (padded width n) = n := by
  rw [ofDigits, padded, Nat.ofDigitChars_append, Nat.ofDigitChars_replicate_zero, Nat.mul_zero]
  exact ofDigits_digits n

theorem length_padded {width n : Nat} (hwidth : 0 < width) (h : n < Nat.pow 10 width) :
    (padded width n).length = width := by
  have hle : (digits n).length ≤ width := (Nat.length_toDigits_le_iff (by decide) hwidth).2 h
  rw [padded, List.length_append, List.length_replicate]
  omega

theorem padded_ne_nil (width n : Nat) : padded width n ≠ [] := by
  rw [padded, ne_eq, List.append_eq_nil_iff]
  exact fun h => Nat.toDigits_ne_nil h.2

theorem padded_append_ne_cons {width n : Nat} {c : Char} (hc : c.isDigit = false)
    (rest after : List Char) : padded width n ++ rest ≠ c :: after := by
  cases h : padded width n with
  | nil => exact absurd h (padded_ne_nil width n)
  | cons d ds =>
    intro heq
    have hd : d.isDigit = true := isDigit_of_mem_padded (h ▸ List.mem_cons_self)
    rw [List.cons_append, List.cons.injEq] at heq
    rw [heq.1, hc] at hd
    exact absurd hd (by simp)

theorem isDigit_iff {c : Char} : c.isDigit = true ↔ 48 ≤ c.toNat ∧ c.toNat ≤ 57 := by
  simp only [Char.isDigit, Bool.and_eq_true, decide_eq_true_eq, ge_iff_le, UInt32.le_iff_toNat_le]
  exact Iff.rfl

theorem isBlank_eq_false_of_isDigit {c : Char} (h : c.isDigit = true) : isBlank c = false := by
  have range := isDigit_iff.1 h
  simp only [isBlank, inRanges, blankRanges, List.any_cons, List.any_nil, Bool.or_false,
    Bool.or_eq_false_iff, Bool.and_eq_false_iff, decide_eq_false_iff_not]
  omega

theorem trimLeft_cons {c : Char} (h : isBlank c = false) (s : List Char) :
    trimLeft (c :: s) = c :: s := by
  rw [trimLeft, List.dropWhile_cons_of_neg (by simp [h])]

theorem trimLeft_padded (width n : Nat) (rest : List Char) :
    trimLeft (padded width n ++ rest) = padded width n ++ rest := by
  cases h : padded width n with
  | nil => exact absurd h (padded_ne_nil width n)
  | cons c cs =>
    have hc : c.isDigit = true := isDigit_of_mem_padded (h ▸ List.mem_cons_self)
    exact trimLeft_cons (isBlank_eq_false_of_isDigit hc) _

theorem digits_injective {a b : Nat} (h : digits a = digits b) : a = b := by
  rw [← ofDigits_digits a, h, ofDigits_digits]

theorem not_mem_signed {c : Char} (hdigit : c.isDigit = false) (hsign : c ≠ '-') (n : Int) :
    c ∉ signed n := by
  have notDigit : c ∉ digits n.natAbs := by
    intro h
    rw [isDigit_of_mem_digits h] at hdigit
    exact absurd hdigit (by simp)
  unfold signed
  split
  · simp [hsign, notDigit]
  · exact notDigit

theorem signed_ne_nil (n : Int) : signed n ≠ [] := by
  unfold signed
  split
  · exact List.cons_ne_nil _ _
  · exact Nat.toDigits_ne_nil

theorem signed_injective {a b : Int} (h : signed a = signed b) : a = b := by
  have sign {n m : Nat} : '-' :: digits n ≠ digits m := by
    intro h
    have hdigit : '-'.isDigit = true := isDigit_of_mem_digits (h ▸ List.mem_cons_self)
    exact absurd hdigit (by decide)
  unfold signed at h
  split at h
  · split at h
    · have := digits_injective (List.cons.inj h).2
      omega
    · exact absurd h sign
  · split at h
    · exact absurd h.symm sign
    · have := digits_injective h
      omega

theorem head?_digits_ne {n : Nat} (h : 0 < n) : (digits n).head? ≠ some '0' := by
  induction n using Nat.strongRecOn with
  | ind n ih =>
    by_cases hn : n < 10
    · have digit : ∀ d < 10, 0 < d → Nat.digitChar d ≠ '0' := by decide
      rw [digits, Nat.toDigits_of_lt_base hn, List.head?_cons, ne_eq, Option.some.injEq]
      exact digit n hn h
    · have front := ih (n / 10) (by omega) (by omega)
      have last : n % 10 < 10 := Nat.mod_lt _ (by decide)
      have cut := Nat.toDigits_append_toDigits (b := 10) (n := n / 10) (by decide) (by omega) last
      rw [Nat.div_add_mod] at cut
      rw [digits] at front ⊢
      rw [← cut, List.head?_append]
      cases hfront : (Nat.toDigits 10 (n / 10)).head? with
      | none => exact absurd (List.head?_eq_none_iff.1 hfront) Nat.toDigits_ne_nil
      | some c => rwa [hfront] at front

theorem takeDigits_append {ds rest : List Char} (hds : ∀ c ∈ ds, c.isDigit = true) {limit : Nat}
    (hlimit : ds.length = limit ∨ ds.length ≤ limit ∧ ∀ c ∈ rest.head?, c.isDigit = false) :
    takeDigits limit (ds ++ rest) = (ds, rest) := by
  induction ds generalizing limit with
  | nil =>
    cases limit with
    | zero => rfl
    | succ limit =>
      obtain h | ⟨-, h⟩ := hlimit
      · exact absurd h (by simp)
      · cases rest with
        | nil => rfl
        | cons c cs => simp [takeDigits, h c (by simp)]
  | cons d ds ih =>
    obtain ⟨limit, rfl⟩ : ∃ l, limit = l + 1 := by
      rw [List.length_cons] at hlimit
      exact ⟨limit - 1, by omega⟩
    have hrest : takeDigits limit (ds ++ rest) = (ds, rest) := by
      apply ih fun c hc => hds c (by simp [hc])
      simpa only [List.length_cons, Nat.add_right_cancel_iff, Nat.add_le_add_iff_right]
        using hlimit
    rw [List.cons_append, takeDigits, if_pos (hds d (by simp)), hrest]

theorem le_ofDigitChars (ds : List Char) (n : Nat) : n ≤ Nat.ofDigitChars 10 ds n := by
  induction ds generalizing n with
  | nil => exact Nat.le_refl n
  | cons d ds ih =>
    have step := ih (10 * n + (d.toNat - '0'.toNat))
    change n ≤ Nat.ofDigitChars 10 ds (10 * n + (d.toNat - '0'.toNat))
    omega

theorem readDigits_eq_ok {bound : Nat} {beyond : NumberFault} {ds : List Char} {n : Nat}
    (hds : ∀ c ∈ ds, c.isDigit = true) (h : Nat.ofDigitChars 10 ds n ≤ bound) :
    readDigits bound beyond ds n = .ok (Nat.ofDigitChars 10 ds n) := by
  induction ds generalizing n with
  | nil => rfl
  | cons d ds ih =>
    have within : 10 * n + digitValue d ≤ bound := Nat.le_trans (le_ofDigitChars ds _) h
    rw [readDigits, if_pos (hds d (by simp)), if_pos within]
    exact ih (fun c hc => hds c (by simp [hc])) h

theorem readDigits_digits {bound n : Nat} {beyond : NumberFault} (h : n ≤ bound) :
    readDigits bound beyond (digits n) 0 = .ok n := by
  have value : Nat.ofDigitChars 10 (digits n) 0 = n := ofDigits_digits n
  rw [readDigits_eq_ok (fun c => isDigit_of_mem_digits) (value.symm ▸ h), value]

theorem digits_ne_nil (n : Nat) : digits n ≠ [] := Nat.toDigits_ne_nil

theorem digits_ne_cons {n : Nat} {c : Char} (hc : c.isDigit = false) (rest : List Char) :
    digits n ≠ c :: rest := by
  intro h
  have hdigit : c.isDigit = true := isDigit_of_mem_digits (h ▸ List.mem_cons_self)
  rw [hc] at hdigit
  exact absurd hdigit (by simp)

theorem readNat_digits {bound n : Nat} (h : n ≤ bound) : readNat bound (digits n) = .ok n := by
  unfold readNat
  split
  · rename_i hnil
    exact absurd hnil (digits_ne_nil n)
  · rename_i hplus
    exact absurd hplus (digits_ne_cons rfl _)
  · rename_i hplus
    exact absurd hplus (digits_ne_cons rfl _)
  · exact readDigits_digits h

end SeriesBench.Text
