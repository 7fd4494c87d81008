set_option autoImplicit false

namespace SeriesBench.Text

def pieces (isSep : Char → Bool) : List Char → List Char × List (List Char)
  | [] => ([], [])
  | c :: cs =>
    let rest := pieces isSep cs
    if isSep c then ([], rest.1 :: rest.2) else (c :: rest.1, rest.2)

def splitWhere (isSep : Char → Bool) (s : List Char) : List (List Char) :=
  let all := pieces isSep s
  all.1 :: all.2

def split (sep : Char) (s : List Char) : List (List Char) := splitWhere (· == sep) s

def splitOnce (sep : Char) : List Char → Option (List Char × List Char)
  | [] => none
  | c :: cs =>
    if c = sep then some ([], cs)
    else match splitOnce sep cs with
      | none => none
      | some (before, after) => some (c :: before, after)

theorem split_cons_self (sep : Char) (s : List Char) :
    split sep (sep :: s) = [] :: split sep s := by
  simp [split, splitWhere, pieces]

theorem splitWhere_of_forall {isSep : Char → Bool} {s : List Char}
    (h : ∀ c ∈ s, isSep c = false) : splitWhere isSep s = [s] := by
  induction s with
  | nil => rfl
  | cons c cs ih =>
    rw [List.forall_mem_cons] at h
    have ih := ih h.2
    simp only [splitWhere, List.cons.injEq] at ih
    simp [splitWhere, pieces, h.1, ih.1, ih.2]

theorem split_of_not_mem {sep : Char} {s : List Char} (h : sep ∉ s) : split sep s = [s] := by
  apply splitWhere_of_forall
  intro c hc
  exact beq_false_of_ne fun e => h (e ▸ hc)

theorem splitWhere_append_cons {isSep : Char → Bool} {c : Char} (hc : isSep c = true)
    (s rest : List Char) :
    splitWhere isSep (s ++ c :: rest) = splitWhere isSep s ++ splitWhere isSep rest := by
  induction s with
  | nil => simp [splitWhere, pieces, hc]
  | cons d ds ih =>
    simp only [splitWhere, List.cons_append, List.cons.injEq] at ih ⊢
    by_cases h : isSep d = true
    · simp [pieces, h, ih.1, ih.2]
    · simp [pieces, h, ih.1, ih.2]

theorem split_append_cons (sep : Char) (s rest : List Char) :
    split sep (s ++ sep :: rest) = split sep s ++ split sep rest :=
  splitWhere_append_cons (by simp) s rest

theorem split_append {sep : Char} {s : List Char} (h : sep ∉ s) (rest : List Char) :
    split sep (s ++ sep :: rest) = s :: split sep rest := by
  rw [split_append_cons, split_of_not_mem h, List.singleton_append]

theorem split_ne_nil (sep : Char) (s : List Char) : split sep s ≠ [] := by
  simp [split, splitWhere]

theorem intercalate_split (sep : Char) (s : List Char) :
    List.intercalate [sep] (split sep s) = s := by
  induction s with
  | nil => rfl
  | cons c cs ih =>
    by_cases h : c = sep
    · rw [h, split_cons_self]
      cases hs : split sep cs with
      | nil => exact absurd hs (split_ne_nil sep cs)
      | cons p ps =>
        rw [List.intercalate_cons_cons, ← hs, ih]
        rfl
    · simp only [split, splitWhere] at ih
      simp [split, splitWhere, pieces, h, ih]

theorem not_mem_of_mem_split {sep : Char} {s part : List Char} (h : part ∈ split sep s) :
    sep ∉ part := by
  induction s generalizing part with
  | nil => simp_all [split, splitWhere, pieces]
  | cons c cs ih =>
    by_cases hc : c = sep
    · rw [hc, split_cons_self, List.mem_cons] at h
      rcases h with rfl | h
      · simp
      · exact ih h
    · simp only [split, splitWhere, List.mem_cons] at ih h
      simp only [pieces, beq_eq_false_iff_ne.2 hc, Bool.false_eq_true, if_false] at h
      rcases h with rfl | h
      · rw [List.mem_cons, not_or]
        exact ⟨Ne.symm hc, ih (.inl rfl)⟩
      · exact ih (.inr h)

theorem split_eq_pair_iff {sep : Char} {s before after : List Char} :
    split sep s = [before, after] ↔ s = before ++ sep :: after ∧ sep ∉ before ∧ sep ∉ after := by
  constructor
  · intro h
    have text := intercalate_split sep s
    rw [h] at text
    refine ⟨?_, not_mem_of_mem_split (s := s) ?_, not_mem_of_mem_split (s := s) ?_⟩
    · simpa [List.intercalate] using text.symm
    · simp [h]
    · simp [h]
  · rintro ⟨rfl, hbefore, hafter⟩
    rw [split_append hbefore, split_of_not_mem hafter]

theorem splitOnce_append {sep : Char} {s : List Char} (h : sep ∉ s) (rest : List Char) :
    splitOnce sep (s ++ sep :: rest) = some (s, rest) := by
  induction s with
  | nil => simp [splitOnce]
  | cons c cs ih =>
    have ⟨hc, hcs⟩ := not_or.1 (fun e => h (List.mem_cons.2 e))
    simp [splitOnce, Ne.symm hc, ih hcs]

theorem eq_of_splitOnce {sep : Char} {s before after : List Char}
    (h : splitOnce sep s = some (before, after)) :
    s = before ++ sep :: after ∧ sep ∉ before := by
  induction s generalizing before with
  | nil => simp [splitOnce] at h
  | cons c cs ih =>
    simp only [splitOnce] at h
    split at h
    · simp_all
    · rename_i hc
      cases hr : splitOnce sep cs with
      | none => simp [hr] at h
      | some p =>
        obtain ⟨b, a⟩ := p
        simp only [hr, Option.some.injEq, Prod.mk.injEq] at h
        obtain ⟨rfl, rfl⟩ := h
        have ⟨hcs, hb⟩ := ih hr
        exact ⟨by simp [← hcs], by simp [hb, Ne.symm hc]⟩

theorem splitOnce_eq_none {sep : Char} {s : List Char} :
    splitOnce sep s = none ↔ sep ∉ s := by
  induction s with
  | nil => simp [splitOnce]
  | cons c cs ih =>
    simp only [splitOnce]
    split
    · simp_all
    · rename_i hc
      cases hr : splitOnce sep cs with
      | none => simp [Ne.symm hc, ih.1 hr]
      | some p =>
        have : ¬ sep ∉ cs := fun hn => by simp [ih.2 hn] at hr
        simpa [Ne.symm hc] using this

def splitString (sep : Char) (s : String) : List String :=
  (split sep s.toList).map String.ofList

end SeriesBench.Text
