import SeriesBench.Json.Basic
import SeriesBench.Proofs.Text.Bytes

set_option autoImplicit false

namespace SeriesBench.Json

def hexPadded (width n : Nat) : List Char :=
  List.replicate (width - (Nat.toDigits 16 n).length) '0' ++ Nat.toDigits 16 n

theorem hexPadded_succ {width : Nat} (hwidth : 0 < width) (n : Nat) :
    hexPadded (width + 1) n = hexPadded width (n / 16) ++ [Nat.digitChar (n % 16)] := by
  unfold hexPadded
  by_cases h : n < 16
  · obtain ⟨k, rfl⟩ : ∃ k, width = k + 1 := ⟨width - 1, by omega⟩
    rw [Nat.toDigits_of_lt_base h, Nat.div_eq_of_lt h, Nat.mod_eq_of_lt h, Nat.toDigits_zero]
    simp [← List.replicate_append_replicate]
  · have last : Nat.toDigits 16 (n / 16) ++ [Nat.digitChar (n % 16)] = Nat.toDigits 16 n := by
      have digit : n % 16 < 16 := Nat.mod_lt _ (by decide)
      have cut := Nat.toDigits_append_toDigits (b := 16) (n := n / 16) (by decide) (by omega) digit
      rwa [Nat.toDigits_of_lt_base digit, Nat.div_add_mod] at cut
    rw [← last, List.length_append, List.length_singleton, Nat.add_sub_add_right,
      List.append_assoc]

theorem hexValue?_digitChar : ∀ d < 16, hexValue? (Nat.digitChar d) = some d := by decide

theorem hex4_eq {n : Nat} (h : n < 65536) : hex4 n =
    [Nat.digitChar (n / 16 / 16 / 16), Nat.digitChar (n / 16 / 16 % 16),
      Nat.digitChar (n / 16 % 16), Nat.digitChar (n % 16)] := by
  have first : hexPadded 1 (n / 16 / 16 / 16) = [Nat.digitChar (n / 16 / 16 / 16)] := by
    rw [hexPadded, Nat.toDigits_of_lt_base (by omega)]
    rfl
  change hexPadded 4 n = _
  rw [hexPadded_succ (by decide), hexPadded_succ (by decide), hexPadded_succ (by decide), first]
  rfl

theorem hexUnit?_digitChar {n : Nat} (h : n < 65536) :
    hexUnit? (Nat.digitChar (n / 16 / 16 / 16)) (Nat.digitChar (n / 16 / 16 % 16))
      (Nat.digitChar (n / 16 % 16)) (Nat.digitChar (n % 16)) = some n := by
  have value : ((n / 16 / 16 / 16 * 16 + n / 16 / 16 % 16) * 16 + n / 16 % 16) * 16 + n % 16 = n := by
    omega
  simp only [hexUnit?, hexValue?_digitChar _ (by omega : n / 16 / 16 / 16 < 16),
    hexValue?_digitChar _ (by omega : n / 16 / 16 % 16 < 16),
    hexValue?_digitChar _ (by omega : n / 16 % 16 < 16),
    hexValue?_digitChar _ (by omega : n % 16 < 16), Option.bind_eq_bind, Option.bind_some, value,
    Option.pure_def]

def IsUnit (unit : Nat) : Prop := unit < 0x110000

theorem isUnit_toNat (c : Char) : IsUnit c.toNat := by
  have valid : c.toNat < 55296 ∨ 57343 < c.toNat ∧ c.toNat < 1114112 := c.valid
  unfold IsUnit
  omega

theorem readUnits_hex4 {n : Nat} (h : n < 65536) (rest : List Char) (done : List Nat) :
    readUnits ('\\' :: 'u' :: hex4 n ++ rest) done = readUnits rest (n :: done) := by
  rw [hex4_eq h]
  simp only [List.cons_append, List.nil_append, readUnits, hexUnit?_digitChar h]

theorem readUnits_plain {c : Char} (hquote : c ≠ '"') (hescape : c ≠ '\\')
    (hcontrol : ¬ c.toNat < 0x20) (rest : List Char) (done : List Nat) :
    readUnits (c :: rest) done = readUnits rest (c.toNat :: done) := by
  rw [readUnits.eq_def]
  split
  · simp_all
  · simp_all
  · simp_all
  · rename_i heq
    obtain ⟨rfl, rfl⟩ := List.cons.inj heq
    rw [if_neg hcontrol]
  · contradiction

theorem plain_unit {unit : Nat} (h : IsUnit unit)
    (hplain : ¬ (decide (unit < 0x20) || isHighHalf unit || isLowHalf unit) = true) :
    ¬ unit < 0x20 ∧ (Char.ofNat unit).toNat = unit := by
  simp only [isHighHalf, isLowHalf, Bool.or_eq_true, Bool.and_eq_true, decide_eq_true_eq,
    not_or] at hplain
  refine ⟨hplain.1.1, Text.toNat_ofNat ?_⟩
  unfold IsUnit at h
  omega

theorem readUnits_renderUnit {unit : Nat} (h : IsUnit unit) (rest : List Char) (done : List Nat) :
    readUnits (renderUnit unit ++ rest) done = readUnits rest (unit :: done) := by
  unfold renderUnit
  iterate 7
    split
    · subst_vars
      rfl
  split
  · rename_i hescaped
    apply readUnits_hex4
    simp only [isHighHalf, isLowHalf, Bool.or_eq_true, Bool.and_eq_true, decide_eq_true_eq]
      at hescaped
    omega
  · rename_i hquote hescape _ _ _ _ _ hplain
    obtain ⟨hcontrol, value⟩ := plain_unit h hplain
    have ne {c : Char} (hc : unit ≠ c.toNat) : Char.ofNat unit ≠ c := by
      rintro rfl
      exact hc value.symm
    have read := readUnits_plain (ne hquote) (ne hescape) (value.symm ▸ hcontrol) rest done
    rwa [value] at read

theorem readUnits_flatMap {units : List Nat} (h : ∀ u ∈ units, IsUnit u) (rest : List Char)
    (done : List Nat) : readUnits (units.flatMap renderUnit ++ '"' :: rest) done =
      some (units.reverse ++ done, rest) := by
  induction units generalizing done with
  | nil => rfl
  | cons unit units ih =>
    rw [List.flatMap_cons, List.append_assoc, readUnits_renderUnit (h unit (by simp)),
      ih fun u hu => h u (by simp [hu])]
    simp

theorem digitChar_ne_newline : ∀ d < 16, Nat.digitChar d ≠ '\n' := by decide

theorem newline_not_mem_renderUnit {unit : Nat} (h : IsUnit unit) : '\n' ∉ renderUnit unit := by
  unfold renderUnit
  iterate 7
    split
    · decide
  split
  · rename_i hescaped
    have small : unit < 65536 := by
      simp only [isHighHalf, isLowHalf, Bool.or_eq_true, Bool.and_eq_true, decide_eq_true_eq]
        at hescaped
      omega
    have digit (n : Nat) : '\n' ≠ Nat.digitChar (n % 16) :=
      (digitChar_ne_newline _ (Nat.mod_lt _ (by decide))).symm
    have first : '\n' ≠ Nat.digitChar (unit / 16 / 16 / 16) :=
      (digitChar_ne_newline _ (by omega)).symm
    simp [hex4_eq small, digit, first]
  · rename_i hplain
    obtain ⟨hcontrol, value⟩ := plain_unit h hplain
    rw [List.mem_singleton]
    intro hnewline
    rw [← hnewline] at value
    exact hcontrol (value ▸ by decide)

theorem charsOfUnits?_toNat (s : List Char) : charsOfUnits? (s.map Char.toNat) = some s := by
  induction s with
  | nil => rfl
  | cons c cs ih =>
    have valid : c.toNat < 55296 ∨ 57343 < c.toNat ∧ c.toNat < 1114112 := c.valid
    have high : isHighHalf c.toNat = false := by
      simp only [isHighHalf, Bool.and_eq_false_iff, decide_eq_false_iff_not]
      omega
    have low : isLowHalf c.toNat = false := by
      simp only [isLowHalf, Bool.and_eq_false_iff, decide_eq_false_iff_not]
      omega
    cases cs with
    | nil => simp [charsOfUnits?, high, low]
    | cons d ds =>
      rw [List.map_cons] at ih
      simp only [List.map_cons, charsOfUnits?, high, low, ih, Bool.false_eq_true, if_false,
        Option.map_some, Char.ofNat_toNat]

theorem stringOfUnits?_toNat (s : String) :
    stringOfUnits? (s.toList.map Char.toNat) = some s := by
  rw [stringOfUnits?, charsOfUnits?_toNat, Option.map_some, String.ofList_toList]

end SeriesBench.Json
