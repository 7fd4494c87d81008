import SeriesBench.Proofs.Plan.Defects

set_option autoImplicit false

namespace SeriesBench
open SeriesBench.Text

namespace TagTerm

/-- Whether the first equals sign of a term comes after at least one character. -/
def WellFormed (term : String) : Prop :=
  ∃ before after, term.toList = before ++ '=' :: after ∧ '=' ∉ before ∧ before ≠ []

structure WrittenAs (t : TagTerm) (term : String) : Prop where
  text : term.toList = t.key.toList ++ '=' :: t.value.toList
  key_free : '=' ∉ t.key.toList
  key_ne : t.key.toList ≠ []

theorem read_eq_ok_iff {term : String} {t : TagTerm} : read term = .ok t ↔ t.WrittenAs term := by
  unfold read
  constructor
  · intro h
    split at h
    · rename_i k key value hcut
      obtain ⟨htext, hfree⟩ := eq_of_splitOnce hcut
      cases h
      exact ⟨by simpa using htext, by simpa using hfree, by simp⟩
    · exact absurd h (by simp)
  · rintro ⟨htext, hfree, hne⟩
    obtain ⟨k, key, hkey⟩ := List.exists_cons_of_ne_nil hne
    have hcut := splitOnce_append hfree t.value.toList
    rw [← htext, hkey] at hcut
    rw [hcut]
    dsimp only
    rw [← hkey, String.ofList_toList, String.ofList_toList]

theorem exists_writtenAs_iff {term : String} :
    (∃ t : TagTerm, t.WrittenAs term) ↔ WellFormed term := by
  constructor
  · rintro ⟨t, htext, hfree, hne⟩
    exact ⟨_, _, htext, hfree, hne⟩
  · rintro ⟨before, after, htext, hfree, hne⟩
    exact ⟨⟨String.ofList before, String.ofList after⟩, by simpa using htext, by simpa using hfree,
      by simpa using hne⟩

theorem badTerm_eq_false_iff {term : String} : badTerm term = false ↔ WellFormed term := by
  rw [badTerm, decide_eq_false_iff_not, not_or, Decidable.not_not]
  constructor
  · rintro ⟨hmem, hhead⟩
    obtain ⟨before, after, htext, hfree⟩ := List.eq_append_cons_of_mem hmem
    refine ⟨before, after, htext, hfree, ?_⟩
    rintro rfl
    exact hhead (by rw [htext]; rfl)
  · rintro ⟨before, after, htext, hfree, hne⟩
    obtain ⟨c, rest, rfl⟩ := List.exists_cons_of_ne_nil hne
    have hc : c ≠ '=' := (List.ne_of_not_mem_cons hfree).symm
    simp [htext, hc]

theorem WrittenAs.unique {term : String} {t u : TagTerm} (ht : t.WrittenAs term)
    (hu : u.WrittenAs term) : t = u :=
  Except.ok.inj ((read_eq_ok_iff.2 ht).symm.trans (read_eq_ok_iff.2 hu))

end TagTerm

namespace TagFilter
variable {clauses : List (List String)} {f : TagFilter}

def Satisfied (tags : StringMap String) (clause : List TagTerm) : Prop := ∀ t ∈ clause, t.Holds tags

theorem readClauses_eq_ok_iff : readClauses clauses = .ok f ↔
    List.Forall₂ (List.Forall₂ fun term t => t.WrittenAs term) clauses f.clauses := by
  simp only [readClauses, map_eq_ok_iff, mapM_eq_ok_iff, TagTerm.read_eq_ok_iff]
  constructor
  · rintro ⟨terms, hterms, rfl⟩
    exact hterms
  · intro hterms
    exact ⟨f.clauses, hterms, rfl⟩

theorem exists_readClauses_iff : (∃ f, readClauses clauses = .ok f) ↔
    ∀ clause ∈ clauses, ∀ term ∈ clause, TagTerm.WellFormed term := by
  simp only [readClauses_eq_ok_iff, ← TagTerm.exists_writtenAs_iff]
  constructor
  · rintro ⟨f, hf⟩ clause hclause term hterm
    obtain ⟨terms, -, hterms⟩ := exists_right_of_mem hf hclause
    obtain ⟨t, -, ht⟩ := exists_right_of_mem hterms hterm
    exact ⟨t, ht⟩
  · intro h
    obtain ⟨terms, hterms⟩ := exists_forall₂ fun clause hclause => exists_forall₂ (h clause hclause)
    exact ⟨⟨terms⟩, hterms⟩

theorem readClauses_eq_error_iff {e : PlanError} : readClauses clauses = .error e ↔
    ∃ earlier term later, clauses.flatten = earlier ++ term :: later ∧
      (∀ t ∈ earlier, TagTerm.WellFormed t) ∧ ¬ TagTerm.WellFormed term ∧ e = .tagTerm term := by
  rw [tagFilter_reports clauses e, firstOf_singleton, Blamed]
  simp only [Option.map_eq_some_iff, List.find?_eq_some_iff_append, Bool.not_eq_true',
    TagTerm.badTerm_eq_false_iff]
  constructor
  · rintro ⟨term, ⟨hbad, earlier, later, hcut, hearlier⟩, rfl⟩
    rw [← Bool.not_eq_false, TagTerm.badTerm_eq_false_iff] at hbad
    exact ⟨earlier, term, later, hcut, hearlier, hbad, rfl⟩
  · rintro ⟨earlier, term, later, hcut, hearlier, hbad, rfl⟩
    rw [← TagTerm.badTerm_eq_false_iff, Bool.not_eq_false] at hbad
    exact ⟨term, ⟨hbad, earlier, later, hcut, hearlier⟩, rfl⟩

theorem accepts_iff (tags : StringMap String) : f.accepts tags = true ↔
    f.clauses = [] ∨ ∃ clause ∈ f.clauses, Satisfied tags clause := by
  simp [accepts, isEmpty, Satisfied]

theorem satisfied_iff {tags : StringMap String} {clause : List String} {terms : List TagTerm}
    (h : List.Forall₂ (fun term t => t.WrittenAs term) clause terms) : Satisfied tags terms ↔
      ∀ term ∈ clause, ∃ t : TagTerm, t.WrittenAs term ∧ tags.get? t.key = some t.value := by
  constructor
  · intro hall term hterm
    obtain ⟨t, ht, hwritten⟩ := exists_right_of_mem h hterm
    exact ⟨t, hwritten, hall t ht⟩
  · intro hall t ht
    obtain ⟨term, hterm, hwritten⟩ := exists_left_of_mem h ht
    obtain ⟨u, hu, hholds⟩ := hall term hterm
    obtain rfl := hwritten.unique hu
    exact hholds

theorem accepts_iff_of_readClauses (h : readClauses clauses = .ok f) (tags : StringMap String) :
    f.accepts tags = true ↔ clauses = [] ∨ ∃ clause ∈ clauses, ∀ term ∈ clause,
      ∃ t : TagTerm, t.WrittenAs term ∧ tags.get? t.key = some t.value := by
  have written := readClauses_eq_ok_iff.1 h
  have none : f.clauses = [] ↔ clauses = [] := by
    rw [← List.length_eq_zero_iff, ← List.length_eq_zero_iff, written.length_eq]
  rw [accepts_iff, none]
  refine or_congr_right ?_
  constructor
  · rintro ⟨terms, hterms, hsatisfied⟩
    obtain ⟨clause, hclause, hwritten⟩ := exists_left_of_mem written hterms
    exact ⟨clause, hclause, (satisfied_iff hwritten).1 hsatisfied⟩
  · rintro ⟨clause, hclause, hall⟩
    obtain ⟨terms, hterms, hwritten⟩ := exists_right_of_mem written hclause
    exact ⟨terms, hterms, (satisfied_iff hwritten).2 hall⟩

theorem not_satisfied {tags : StringMap String} {clause : List TagTerm}
    (h : (∃ t ∈ clause, tags.get? t.key = none) ∨
      ∃ t ∈ clause, ∃ u ∈ clause, t.key = u.key ∧ t.value ≠ u.value) :
    ¬ Satisfied tags clause := by
  intro hall
  rcases h with ⟨t, ht, habsent⟩ | ⟨t, ht, u, hu, hkey, hvalue⟩
  · have hholds : tags.get? t.key = some t.value := hall t ht
    rw [habsent] at hholds
    exact absurd hholds (by simp)
  · have first : tags.get? t.key = some t.value := hall t ht
    have second : tags.get? u.key = some u.value := hall u hu
    rw [hkey, second] at first
    exact hvalue (Option.some.inj first).symm

/-- A filter is read from its text just when each term has its first equals sign after at least one
character, and otherwise the first term that has not is told. It has the clauses and terms of the
text, and lets tags through if they satisfy a clause or if there is none. A clause without terms is
satisfied by all tags, and one with a term for a key that tags lack, or with two terms that differ
on a key, is not. -/
theorem filter_means_text (clauses : List (List String)) :
    ((∃ f, readClauses clauses = .ok f) ↔
      ∀ clause ∈ clauses, ∀ term ∈ clause, TagTerm.WellFormed term) ∧
    (∀ e, readClauses clauses = .error e ↔ ∃ earlier term later,
      clauses.flatten = earlier ++ term :: later ∧ (∀ t ∈ earlier, TagTerm.WellFormed t) ∧
        ¬ TagTerm.WellFormed term ∧ e = .tagTerm term) ∧
    (∀ f, readClauses clauses = .ok f →
      List.Forall₂ (List.Forall₂ fun term t => t.WrittenAs term) clauses f.clauses ∧
      ∀ tags, f.accepts tags = true ↔ clauses = [] ∨ ∃ clause ∈ clauses, ∀ term ∈ clause,
        ∃ t : TagTerm, t.WrittenAs term ∧ tags.get? t.key = some t.value) ∧
    ∀ (f : TagFilter) (tags : StringMap String),
      (f.accepts tags = true ↔ f.clauses = [] ∨ ∃ clause ∈ f.clauses, Satisfied tags clause) ∧
      Satisfied tags [] ∧
      ∀ clause, ((∃ t ∈ clause, tags.get? t.key = none) ∨
        ∃ t ∈ clause, ∃ u ∈ clause, t.key = u.key ∧ t.value ≠ u.value) →
          ¬ Satisfied tags clause := by
  refine ⟨exists_readClauses_iff, fun e => readClauses_eq_error_iff, ?_, ?_⟩
  · intro f hf
    exact ⟨readClauses_eq_ok_iff.1 hf, accepts_iff_of_readClauses hf⟩
  · intro f tags
    refine ⟨accepts_iff tags, ?_, fun clause => not_satisfied⟩
    intro t ht
    exact absurd ht (by simp)

/-- A term that begins with an equals sign is refused, though it has another one later on. -/
theorem leadingEquals_refused : ¬ ((∃ f, readClauses [["=a=b"]] = .ok f) ↔
    ∀ clause ∈ [["=a=b"]], ∀ term ∈ clause,
      ∃ before after, term.toList = before ++ '=' :: after ∧ before ≠ []) := by
  have refused : readClauses [["=a=b"]] = .error (.tagTerm "=a=b") := rfl
  intro h
  obtain ⟨f, hf⟩ := h.2 (by
    simp only [List.mem_singleton, forall_eq]
    exact ⟨['=', 'a'], ['b'], rfl, by simp⟩)
  rw [refused] at hf
  exact absurd hf (by simp)

end TagFilter
end SeriesBench
