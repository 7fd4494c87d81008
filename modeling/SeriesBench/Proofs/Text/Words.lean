import Mathlib.Data.List.Forall2
import SeriesBench.Text.Blank

set_option autoImplicit false

namespace SeriesBench.Text

structure IsWord (w : List Char) : Prop where
  ne_nil : w ≠ []
  solid : ∀ c ∈ w, isBlank c = false

theorem isWord_iff {w : List Char} :
    IsWord w ↔ (!w.isEmpty && w.all fun c => !isBlank c) = true := by
  rw [Bool.and_eq_true, List.all_eq_true]
  simp only [Bool.not_eq_true', List.isEmpty_eq_false_iff]
  exact ⟨fun h => ⟨h.ne_nil, h.solid⟩, fun h => ⟨h.1, h.2⟩⟩

instance (w : List Char) : Decidable (IsWord w) := decidable_of_iff _ isWord_iff.symm

def EndsWord : List Char → Prop
  | [] => True
  | c :: _ => isBlank c = true

/-- Whether the text is made of the two words, with blanks between them and perhaps around them. -/
def TwoWords (s first second : List Char) : Prop :=
  IsWord first ∧ IsWord second ∧ ∃ before between after,
    s = before ++ first ++ between ++ second ++ after ∧ between ≠ [] ∧
      allBlank before = true ∧ allBlank between = true ∧ allBlank after = true

theorem allBlank_cons {c : Char} {s : List Char} :
    allBlank (c :: s) = true ↔ isBlank c = true ∧ allBlank s = true := by
  rw [allBlank, List.all_cons, Bool.and_eq_true_iff]
  rfl

theorem words_append_cons {c : Char} (hc : isBlank c = true) (s rest : List Char) :
    words (s ++ c :: rest) = words s ++ words rest := by
  rw [words, splitWhere_append_cons hc, List.filter_append]
  rfl

theorem words_nil : words [] = [] := rfl

theorem words_of_isWord {w : List Char} (h : IsWord w) : words w = [w] := by
  rw [words, splitWhere_of_forall h.solid]
  simp [h.ne_nil]

theorem words_blank_append {before : List Char} (h : allBlank before = true) (s : List Char) :
    words (before ++ s) = words s := by
  induction before with
  | nil => rfl
  | cons c before ih =>
    obtain ⟨hc, hbefore⟩ := allBlank_cons.1 h
    rw [List.cons_append, ← List.nil_append (c :: (before ++ s)), words_append_cons hc, words_nil,
      List.nil_append, ih hbefore]

theorem words_of_allBlank {s : List Char} (h : allBlank s = true) : words s = [] := by
  have none := words_blank_append h []
  rwa [List.append_nil, words_nil] at none

theorem words_isWord_append {w rest : List Char} (hw : IsWord w) (hrest : EndsWord rest) :
    words (w ++ rest) = w :: words rest := by
  cases rest with
  | nil => rw [List.append_nil, words_of_isWord hw, words_nil]
  | cons c rest =>
    have skip : words (c :: rest) = words rest := words_append_cons hrest [] rest
    rw [words_append_cons hrest, words_of_isWord hw, skip, List.singleton_append]

theorem endsWord_dropWhile (s : List Char) : EndsWord (s.dropWhile fun c => !isBlank c) := by
  induction s with
  | nil => trivial
  | cons c s ih =>
    rw [List.dropWhile_cons]
    split
    · exact ih
    · simpa [EndsWord] using ‹¬ (!isBlank c) = true›

theorem words_cases (s : List Char) :
    allBlank s = true ∧ words s = [] ∨
      ∃ before w rest, s = before ++ w ++ rest ∧ allBlank before = true ∧ IsWord w ∧
        EndsWord rest ∧ words s = w :: words rest := by
  induction s with
  | nil => exact .inl ⟨rfl, rfl⟩
  | cons c s ih =>
    by_cases hc : isBlank c = true
    · have skip : words (c :: s) = words s := words_append_cons hc [] s
      rcases ih with ⟨hs, hwords⟩ | ⟨before, w, rest, hs, hbefore, hw, hrest, hwords⟩
      · exact .inl ⟨allBlank_cons.2 ⟨hc, hs⟩, skip.trans hwords⟩
      · exact .inr ⟨c :: before, w, rest, congrArg (c :: ·) hs, allBlank_cons.2 ⟨hc, hbefore⟩, hw,
          hrest, skip.trans hwords⟩
    · have hsolid : (!isBlank c) = true := by simpa using hc
      have cut := List.takeWhile_append_dropWhile (p := fun c => !isBlank c) (l := c :: s)
      have hw : IsWord ((c :: s).takeWhile fun c => !isBlank c) := by
        refine ⟨?_, ?_⟩
        · rw [List.takeWhile_cons, if_pos hsolid]
          exact List.cons_ne_nil _ _
        · intro d hd
          simpa using List.all_eq_true.1 List.all_takeWhile d hd
      have hrest := endsWord_dropWhile (c :: s)
      refine .inr ⟨[], _, _, ?_, rfl, hw, hrest, ?_⟩
      · rw [List.nil_append, cut]
      · rw [← words_isWord_append hw hrest, cut]

theorem allBlank_of_words {s : List Char} (h : words s = []) : allBlank s = true := by
  rcases words_cases s with ⟨hs, -⟩ | ⟨_, _, _, -, -, -, -, hwords⟩
  · exact hs
  · exact absurd (hwords.symm.trans h) (List.cons_ne_nil _ _)

theorem exists_of_words_eq_cons {s w : List Char} {ws : List (List Char)} (h : words s = w :: ws) :
    ∃ before rest, s = before ++ w ++ rest ∧ allBlank before = true ∧ IsWord w ∧ EndsWord rest ∧
      words rest = ws := by
  rcases words_cases s with ⟨-, hwords⟩ | ⟨before, v, rest, hs, hbefore, hv, hrest, hwords⟩
  · exact absurd (h.symm.trans hwords) (List.cons_ne_nil _ _)
  · obtain ⟨rfl, rfl⟩ := List.cons.inj (hwords.symm.trans h)
    exact ⟨before, rest, hs, hbefore, hv, hrest, rfl⟩

theorem endsWord_append {gap : List Char} (hne : gap ≠ []) (h : allBlank gap = true)
    (s : List Char) : EndsWord (gap ++ s) := by
  cases gap with
  | nil => exact absurd rfl hne
  | cons c gap => exact (allBlank_cons.1 h).1

theorem endsWord_of_allBlank {s : List Char} (h : allBlank s = true) : EndsWord s := by
  by_cases hne : s = []
  · rw [hne]
    trivial
  · have ends := endsWord_append hne h []
    rwa [List.append_nil] at ends

theorem ne_nil_of_endsWord {gap w rest : List Char} (hw : IsWord w)
    (h : EndsWord (gap ++ w ++ rest)) : gap ≠ [] := by
  rintro rfl
  obtain ⟨c, v, rfl⟩ := List.exists_cons_of_ne_nil hw.ne_nil
  exact absurd h (by simp [EndsWord, hw.solid c List.mem_cons_self])

theorem words_eq_pair_iff {s first second : List Char} :
    words s = [first, second] ↔ TwoWords s first second := by
  constructor
  · intro h
    obtain ⟨before, rest, hs, hbefore, hfirst, hends, hrest⟩ := exists_of_words_eq_cons h
    obtain ⟨between, after, rfl, hbetween, hsecond, -, hafter⟩ := exists_of_words_eq_cons hrest
    refine ⟨hfirst, hsecond, before, between, after, ?_, ne_nil_of_endsWord hsecond hends,
      hbefore, hbetween, allBlank_of_words hafter⟩
    rw [hs, List.append_assoc _ between second, List.append_assoc _ (between ++ second) after]
  · rintro ⟨hfirst, hsecond, before, between, after, rfl, hne, hbefore, hbetween, hafter⟩
    have shape : before ++ first ++ between ++ second ++ after =
        before ++ (first ++ (between ++ (second ++ after))) := by
      simp only [List.append_assoc]
    rw [shape, words_blank_append hbefore,
      words_isWord_append hfirst (endsWord_append hne hbetween _), words_blank_append hbetween,
      words_isWord_append hsecond (endsWord_of_allBlank hafter), words_of_allBlank hafter]

def Spells (letters word : List Char) : Prop :=
  List.Forall₂ (fun c upper => c = upper ∨ c = upper.toLower) letters word

theorem isUpper_iff_val {c : Char} : c.isUpper = true ↔ c.val ≥ 'A'.val ∧ c.val ≤ 'Z'.val :=
  decide_eq_true_iff

theorem isUpper_iff {c : Char} : c.isUpper = true ↔ 65 ≤ c.toNat ∧ c.toNat ≤ 90 := by
  rw [isUpper_iff_val, ge_iff_le, UInt32.le_iff_toNat_le, UInt32.le_iff_toNat_le]
  rfl

theorem toNat_toLower {c : Char} (h : c.isUpper = true) : c.toLower.toNat = c.toNat + 32 := by
  have range := isUpper_iff.1 h
  have step : ('a'.val - 'A'.val).toNat = 32 := rfl
  unfold Char.toLower
  rw [dif_pos (isUpper_iff_val.1 h)]
  change (c.val + ('a'.val - 'A'.val)).toNat = c.toNat + 32
  rw [UInt32.toNat_add, step, Char.toNat_val]
  omega

theorem toLower_eq_iff {c upper : Char} (h : upper.isUpper = true) :
    c.toLower = upper.toLower ↔ c = upper ∨ c = upper.toLower := by
  have hlower := toNat_toLower h
  rw [← Char.toNat_inj, ← Char.toNat_inj, ← Char.toNat_inj, hlower]
  have range := isUpper_iff.1 h
  by_cases hc : c.isUpper = true
  · have crange := isUpper_iff.1 hc
    rw [toNat_toLower hc]
    omega
  · have fixed : c.toLower = c := dif_neg (mt isUpper_iff_val.2 hc)
    rw [isUpper_iff] at hc
    rw [fixed]
    omega

theorem map_toLower_eq_iff {letters word : List Char} (h : ∀ c ∈ word, c.isUpper = true) :
    letters.map Char.toLower = word.map Char.toLower ↔ Spells letters word := by
  induction word generalizing letters with
  | nil => simp [Spells]
  | cons upper word ih =>
    rw [List.forall_mem_cons] at h
    cases letters with
    | nil => simp [Spells]
    | cons c letters =>
      rw [List.map_cons, List.map_cons, List.cons.injEq, toLower_eq_iff h.1, ih h.2, Spells, Spells,
        List.forall₂_cons]

end SeriesBench.Text
