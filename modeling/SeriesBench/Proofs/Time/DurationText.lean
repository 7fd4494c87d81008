import SeriesBench.Proofs.Text.Digits
import SeriesBench.Time.Duration

set_option autoImplicit false

namespace SeriesBench.Time.Duration
open SeriesBench.Text

abbrev Part : Type := TimeUnit × Nat

def Part.text (p : Part) : List Char := digits p.2 ++ unitText p.1 p.2

def Part.nanos (p : Part) : Nat := p.2 * p.1.nanos

def nanosOf : List Part → Nat
  | [] => 0
  | p :: parts => p.nanos + nanosOf parts

theorem nanosOf_amounts (units : List TimeUnit) (n : Nat)
    (hlast : units.getLast?.map TimeUnit.nanos = some 1) : nanosOf (amounts units n) = n := by
  induction units generalizing n with
  | nil => simp at hlast
  | cons unit units ih =>
    have whole := Nat.div_add_mod' n unit.nanos
    cases units with
    | nil =>
      simp only [List.getLast?_singleton, Option.map_some, Option.some.injEq] at hlast
      simp only [amounts, nanosOf, Part.nanos, hlast]
      omega
    | cons next units =>
      rw [List.getLast?_cons_cons] at hlast
      rw [amounts, nanosOf, ih _ hlast]
      exact whole

theorem nanosOf_filter (parts : List Part) :
    nanosOf (parts.filter fun p => p.2 != 0) = nanosOf parts := by
  induction parts with
  | nil => rfl
  | cons p parts ih =>
    by_cases h : p.2 = 0
    · rw [List.filter_cons_of_neg (by simp [h]), ih, nanosOf, Part.nanos, h]
      omega
    · rw [List.filter_cons_of_pos (by simp [h]), nanosOf, nanosOf, ih]

theorem nanos_lt_of_mem_amounts {n : Nat} {p : Part} (h : p ∈ amounts writtenUnits n)
    (hmeasure : wholeMeasure p.1 = 1) : p.nanos < 1000000000 := by
  simp only [writtenUnits, amounts, List.mem_cons, List.not_mem_nil, or_false] at h
  rcases h with rfl | rfl | rfl | rfl | rfl | rfl | rfl | rfl | rfl
  all_goals simp only [wholeMeasure] at hmeasure
  all_goals simp only [Part.nanos, TimeUnit.nanos] at *
  all_goals omega

theorem spaced_append {p : Char → Bool} {ds rest : List Char} (hds : ∀ c ∈ ds, p c = true)
    (hrest : ∀ c ∈ rest.head?, p c = false ∧ isBlank c = false) :
    spaced p (ds ++ rest) = (ds, rest) := by
  induction ds with
  | nil =>
    cases rest with
    | nil => rfl
    | cons c cs =>
      obtain ⟨hc, hblank⟩ := hrest c (by simp)
      simp [spaced, hc, hblank]
  | cons d ds ih =>
    rw [List.cons_append, spaced, if_pos (hds d (by simp)), ih fun c hc => hds c (by simp [hc])]

theorem readUnit?_unitText (unit : TimeUnit) (count : Nat) :
    readUnit? (unitText unit count) = some unit := by
  cases unit <;> simp only [unitText] <;> try split
  all_goals decide

theorem isUnitChar_of_mem_unitText {unit : TimeUnit} {count : Nat} {c : Char}
    (h : c ∈ unitText unit count) : isUnitChar c = true := by
  have all : (unitText unit count).all isUnitChar = true := by
    cases unit <;> simp only [unitText] <;> try split
    all_goals decide
  exact List.all_eq_true.1 all c h

theorem unitText_ne_nil (unit : TimeUnit) (count : Nat) : unitText unit count ≠ [] := by
  cases unit <;> simp only [unitText] <;> try split
  all_goals decide

theorem plain_of_isUnitChar {c : Char} (h : isUnitChar c = true) :
    c.isDigit = false ∧ isBlank c = false ∧ c ≠ '.' := by
  have range : 65 ≤ c.toNat ∧ c.toNat ≤ 90 ∨ 97 ≤ c.toNat ∧ c.toNat ≤ 122 ∨ c.toNat = 181 := by
    rcases Bool.or_eq_true_iff.1 h with h | h
    · rcases Bool.or_eq_true_iff.1 h with h | h
      · exact .inl (of_decide_eq_true h)
      · obtain ⟨low, high⟩ := Bool.and_eq_true_iff.1 h
        exact .inr (.inl ⟨of_decide_eq_true low, of_decide_eq_true high⟩)
    · obtain rfl : c = 'µ' := eq_of_beq h
      exact .inr (.inr rfl)
  refine ⟨?_, ?_, ?_⟩
  · rw [Bool.eq_false_iff, ne_eq, isDigit_iff]
    omega
  · simp only [isBlank, inRanges, blankRanges, List.any_cons, List.any_nil, Bool.or_false,
      Bool.or_eq_false_iff, Bool.and_eq_false_iff, decide_eq_false_iff_not]
    omega
  · rintro rfl
    exact absurd range (by decide)

def Stops (rest : List Char) : Prop := ∀ c ∈ rest.head?, c = ' '

theorem span_unitText (unit : TimeUnit) (count : Nat) {rest : List Char} (hrest : Stops rest) :
    (unitText unit count ++ rest).takeWhile isUnitChar = unitText unit count ∧
      (unitText unit count ++ rest).dropWhile isUnitChar = rest := by
  have all : ∀ c ∈ unitText unit count, isUnitChar c = true := fun c => isUnitChar_of_mem_unitText
  rw [List.takeWhile_append_of_pos all, List.dropWhile_append_of_pos all]
  cases rest with
  | nil => exact ⟨List.append_nil _, rfl⟩
  | cons c rest =>
    obtain rfl : c = ' ' := hrest c (by simp)
    exact ⟨List.append_nil _, rfl⟩

theorem readAmount?_text {p : Part} (hcount : p.2 ≤ maxWord) {rest : List Char}
    (hrest : Stops rest) : readAmount? (p.text ++ rest) = some (⟨p.2, none, p.1⟩, rest) := by
  obtain ⟨unit, count⟩ := p
  have number : spaced Char.isDigit (digits count ++ (unitText unit count ++ rest)) =
      (digits count, unitText unit count ++ rest) := by
    apply spaced_append fun c => isDigit_of_mem_digits
    cases h : unitText unit count with
    | nil => exact absurd h (unitText_ne_nil unit count)
    | cons c cs =>
      intro d hd
      obtain rfl : c = d := by simpa using hd
      obtain ⟨hdigit, hblank, -⟩ :=
        plain_of_isUnitChar (isUnitChar_of_mem_unitText (h ▸ List.mem_cons_self))
      exact ⟨hdigit, hblank⟩
  have point : readPoint? (unitText unit count ++ rest) =
      some (none, unitText unit count ++ rest) := by
    unfold readPoint?
    split
    · rename_i s hs
      cases h : unitText unit count with
      | nil => exact absurd h (unitText_ne_nil unit count)
      | cons c cs =>
        obtain ⟨-, -, hpoint⟩ :=
          plain_of_isUnitChar (isUnitChar_of_mem_unitText (h ▸ List.mem_cons_self))
        rw [h, List.cons_append, List.cons.injEq] at hs
        exact absurd hs.1 hpoint
    · rfl
  have stops : (rest.head?.all fun c => c.isDigit || isBlank c) = true := by
    rw [Option.all_eq_true]
    intro c hc
    rw [hrest c hc]
    rfl
  obtain ⟨take, drop⟩ := span_unitText unit count hrest
  simp only [readAmount?, Part.text, List.append_assoc, number, readWord?, readNat_digits hcount,
    Except.toOption, point, take, drop, readUnit?_unitText, stops, Option.bind_eq_bind,
    Option.bind_some, if_true]

theorem wholeMeasure_cases (unit : TimeUnit) :
    unit.nanos / wholeMeasure unit * wholeMeasure unit = unit.nanos ∧
      0 < unit.nanos / wholeMeasure unit ∧
      (wholeMeasure unit = 1 ∨ wholeMeasure unit = 1000000000) := by
  cases unit <;> decide

theorem count_le_maxWord {p : Part} (hsum : p.nanos < UInt64.size * 1000000000)
    (hsmall : wholeMeasure p.1 = 1 → p.nanos < 1000000000) : p.2 ≤ maxWord := by
  obtain ⟨hunit, hpos, hmeasure⟩ := wholeMeasure_cases p.1
  have least : p.2 * wholeMeasure p.1 ≤ p.nanos := by
    calc p.2 * wholeMeasure p.1
      _ ≤ p.2 * (p.1.nanos / wholeMeasure p.1 * wholeMeasure p.1) :=
          Nat.mul_le_mul_left _ (Nat.le_mul_of_pos_left _ hpos)
      _ = p.nanos := by rw [hunit, Part.nanos]
  simp only [maxWord, UInt64.size] at *
  rcases hmeasure with h | h
  · have := hsmall h
    rw [h] at least
    omega
  · rw [h] at least
    omega

theorem addTo_part {p : Part} {total : Nat} (hsum : total + p.nanos < UInt64.size * 1000000000)
    (hsmall : wholeMeasure p.1 = 1 → p.nanos < 1000000000) :
    Amount.addTo ⟨p.2, none, p.1⟩ total = .ok (total + p.nanos) := by
  obtain ⟨unit, count⟩ := p
  obtain ⟨hunit, -, hmeasure⟩ := wholeMeasure_cases unit
  have nanos : count * (unit.nanos / wholeMeasure unit) * wholeMeasure unit =
      Part.nanos (unit, count) := by
    rw [Nat.mul_assoc, hunit]
    rfl
  have added : add total (count * (unit.nanos / wholeMeasure unit)) (wholeMeasure unit) =
      .ok (total + Part.nanos (unit, count)) := by
    unfold add
    simp only [nanos, hsum, if_true]
    rw [if_neg]
    simp only [maxWord, UInt64.size] at *
    rcases hmeasure with h | h
    · have := hsmall h
      rw [h] at nanos ⊢
      rw [if_pos rfl]
      omega
    · rw [h] at nanos ⊢
      rw [if_neg (by decide)]
      omega
  simp only [Amount.addTo, added, bind, Except.bind, pure, Except.pure]

theorem readAmounts_space (fuel : Nat) (s : List Char) (total : Nat) :
    readAmounts fuel (' ' :: s) total = readAmounts fuel s total := by
  have skip : trimLeft (' ' :: s) = trimLeft s := List.dropWhile_cons_of_pos rfl
  unfold readAmounts
  rw [skip]

theorem trimLeft_part (p : Part) (rest : List Char) :
    trimLeft (p.text ++ rest) = p.text ++ rest ∧ p.text ++ rest ≠ [] := by
  obtain ⟨unit, count⟩ := p
  cases h : digits count with
  | nil => exact absurd h Nat.toDigits_ne_nil
  | cons c cs =>
    have hc : c.isDigit = true := isDigit_of_mem_digits (h ▸ List.mem_cons_self)
    simp only [Part.text, h, List.cons_append]
    exact ⟨trimLeft_cons (isBlank_eq_false_of_isDigit hc) _, by simp⟩

theorem readAmounts_step {p : Part} {fuel total sum : Nat} {rest : List Char}
    (hcount : p.2 ≤ maxWord) (hrest : Stops rest)
    (hsum : Amount.addTo ⟨p.2, none, p.1⟩ total = .ok sum) :
    readAmounts (fuel + 1) (p.text ++ rest) total = readAmounts fuel rest sum := by
  obtain ⟨htrim, hne⟩ := trimLeft_part p rest
  rw [readAmounts.eq_def (fuel + 1), htrim]
  split
  · contradiction
  · contradiction
  · rename_i hfuel _
    obtain rfl := Nat.succ.inj hfuel
    simp only [readAmount?_text hcount hrest, hsum, bind, Except.bind]

/-- The amounts that are still to be read, with a space before each. -/
def tailText (parts : List Part) : List Char := parts.flatMap fun p => ' ' :: p.text

theorem stops_tailText (parts : List Part) : Stops (tailText parts) := by
  cases parts with
  | nil => simp [Stops, tailText]
  | cons p parts => simp [Stops, tailText]

theorem readAmounts_parts {parts : List Part} {total fuel : Nat} (hfuel : parts.length ≤ fuel)
    (hsum : total + nanosOf parts < UInt64.size * 1000000000)
    (hsmall : ∀ p ∈ parts, wholeMeasure p.1 = 1 → p.nanos < 1000000000) :
    readAmounts fuel (tailText parts) total = .ok (total + nanosOf parts) := by
  induction parts generalizing total fuel with
  | nil => cases fuel <;> rfl
  | cons p parts ih =>
    cases fuel with
    | zero => simp at hfuel
    | succ fuel =>
      rw [nanosOf] at hsum ⊢
      have hp := hsmall p (by simp)
      have hcount : p.2 ≤ maxWord := count_le_maxWord (by omega) hp
      have text : tailText (p :: parts) = ' ' :: (p.text ++ tailText parts) := rfl
      have fits : total + p.nanos < UInt64.size * 1000000000 := by omega
      have added := addTo_part fits hp
      rw [text, readAmounts_space, readAmounts_step hcount (stops_tailText parts) added,
        ih (by simpa using hfuel) (by omega) fun q hq => hsmall q (by simp [hq]), Nat.add_assoc]

theorem tailText_eq {parts : List Part} (h : parts ≠ []) :
    tailText parts = ' ' :: List.intercalate [' '] (parts.map Part.text) := by
  induction parts with
  | nil => contradiction
  | cons p parts ih =>
    cases parts with
    | nil => simp [tailText, List.intercalate]
    | cons q parts =>
      have rest := ih (by simp)
      rw [tailText, List.flatMap_cons, ← tailText, rest, List.map_cons, List.map_cons, List.map_cons,
        List.intercalate_cons_cons]
      simp

theorem length_le_length_tailText (parts : List Part) :
    2 * parts.length ≤ (tailText parts).length := by
  induction parts with
  | nil => exact Nat.le_refl 0
  | cons p parts ih =>
    have hp := (trimLeft_part p []).2
    rw [List.append_nil, ne_eq, ← List.length_eq_zero_iff] at hp
    have text : tailText (p :: parts) = ' ' :: (p.text ++ tailText parts) := rfl
    rw [text, List.length_cons, List.length_cons, List.length_append]
    omega

/-- Where there is a unit, the text is neither a lone zero nor blank. -/
theorem readChars_of_isUnitChar {s : List Char} {c : Char} (hc : c ∈ s) (hunit : isUnitChar c = true)
    {d : Duration} (hread : readAmounts s.length s 0 = .ok d.nanos) : readChars s = .ok d := by
  obtain ⟨-, hblank, -⟩ := plain_of_isUnitChar hunit
  have notZero : s ≠ ['0'] := by
    rintro rfl
    obtain rfl : c = '0' := by simpa using hc
    exact absurd hunit (by decide)
  have notBlank : allBlank s = false := by
    rw [Bool.eq_false_iff, allBlank, ne_eq, List.all_eq_true]
    intro hall
    rw [hall c hc] at hblank
    exact absurd hblank (by simp)
  have made : ofNanos? d.nanos = some d := dif_pos d.nanos_lt
  simp only [readChars, notZero, notBlank, Bool.false_eq_true, if_false, hread, bind, Except.bind,
    made, pure, Except.pure]

theorem readChars_textChars (d : Duration) : readChars d.textChars = .ok d := by
  by_cases hzero : d.nanos = 0
  · obtain rfl : d = zero := by cases d; simp_all [zero]
    rfl
  · obtain ⟨parts, hparts⟩ : ∃ parts : List Part,
        (amounts writtenUnits d.nanos).filter (fun p => p.2 != 0) = parts := ⟨_, rfl⟩
    have sum : nanosOf parts = d.nanos := by
      rw [← hparts, nanosOf_filter, nanosOf_amounts writtenUnits d.nanos rfl]
    have small : ∀ p ∈ parts, wholeMeasure p.1 = 1 → p.nanos < 1000000000 := by
      intro p hp
      rw [← hparts] at hp
      exact nanos_lt_of_mem_amounts (List.mem_filter.1 hp).1
    have text : d.textChars = List.intercalate [' '] (parts.map Part.text) := by
      simp only [textChars, isZero, beq_iff_eq, hzero, if_false, hparts]
      rfl
    cases parts with
    | nil => exact absurd sum.symm hzero
    | cons p parts =>
      have tail := tailText_eq (List.cons_ne_nil p parts)
      have length := length_le_length_tailText (p :: parts)
      rw [← text] at tail
      rw [tail, List.length_cons, List.length_cons] at length
      -- an amount has two characters or more, so the length of the text is fuel enough
      have read : readAmounts d.textChars.length d.textChars 0 = .ok d.nanos := by
        have := d.nanos_lt
        rw [← readAmounts_space, ← tail, readAmounts_parts (by simp; omega) (by omega) small, sum,
          Nat.zero_add]
      have front : d.textChars = p.text ++ tailText parts := (List.cons.inj tail).2.symm
      obtain ⟨c, hc⟩ := List.exists_mem_of_ne_nil _ (unitText_ne_nil p.1 p.2)
      apply readChars_of_isUnitChar (c := c) _ (isUnitChar_of_mem_unitText hc) read
      rw [front, Part.text]
      simp [hc]

end SeriesBench.Time.Duration
