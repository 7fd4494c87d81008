import SeriesBench.Proofs.Success

set_option autoImplicit false

/-!
# Steps that fail

A sequence of steps fails with the error of the first step that does. What a step can fail with is
given by checks, each of which is a relation to the errors that it finds; `Reports` says that a step
fails just when some check finds an error, with that of the first check that does.
-/
namespace SeriesBench
variable {ε α β γ : Type}

/-- The error of the first check that finds one. -/
def FirstOf : List (ε → Prop) → ε → Prop
  | [], _ => False
  | check :: rest, e => check e ∨ (∀ d, ¬ check d) ∧ FirstOf rest e

theorem firstOf_singleton {check : ε → Prop} {e : ε} : FirstOf [check] e ↔ check e := by
  simp [FirstOf]

theorem firstOf_append {xs ys : List (ε → Prop)} {e : ε} : FirstOf (xs ++ ys) e ↔
    FirstOf xs e ∨ (∀ check ∈ xs, ∀ d, ¬ check d) ∧ FirstOf ys e := by
  induction xs with
  | nil => simp [FirstOf]
  | cons check rest ih =>
    simp only [List.cons_append, FirstOf, ih, List.forall_mem_cons]
    tauto

theorem exists_firstOf_iff {checks : List (ε → Prop)} :
    (∃ e, FirstOf checks e) ↔ ∃ check ∈ checks, ∃ e, check e := by
  induction checks with
  | nil => simp [FirstOf]
  | cons check rest ih =>
    have split : (∃ c ∈ check :: rest, ∃ e, c e) ↔ (∃ e, check e) ∨ ∃ e, FirstOf rest e := by
      simp only [ih, List.mem_cons, or_and_right, exists_or, exists_eq_left]
    rw [split]
    constructor
    · rintro ⟨e, h | ⟨-, h⟩⟩
      · exact .inl ⟨e, h⟩
      · exact .inr ⟨e, h⟩
    · rintro (⟨e, h⟩ | ⟨e, h⟩)
      · exact ⟨e, .inl h⟩
      · by_cases hcheck : ∃ d, check d
        · obtain ⟨d, hd⟩ := hcheck
          exact ⟨d, .inl hd⟩
        · exact ⟨e, .inr ⟨not_exists.1 hcheck, h⟩⟩

theorem exists_of_firstOf {checks : List (ε → Prop)} {e : ε} (h : FirstOf checks e) :
    ∃ check ∈ checks, check e := by
  induction checks with
  | nil => exact h.elim
  | cons check rest ih =>
    rcases h with h | ⟨-, h⟩
    · exact ⟨check, List.mem_cons_self, h⟩
    · obtain ⟨other, hother, hfound⟩ := ih h
      exact ⟨other, List.mem_cons_of_mem check hother, hfound⟩

/-- Whether the step fails just when some check finds an error, with that of the first that does. -/
def Reports (x : Except ε α) (checks : List (ε → Prop)) : Prop :=
  ∀ e, x = .error e ↔ FirstOf checks e

namespace Reports
variable {x : Except ε α} {checks more : List (ε → Prop)} {check : ε → Prop}

theorem none_of_ok {a : α} (h : Reports x checks) (hx : x = .ok a) :
    ∀ check ∈ checks, ∀ d, ¬ check d := by
  intro check hcheck d hd
  obtain ⟨e, he⟩ := exists_firstOf_iff.2 ⟨check, hcheck, d, hd⟩
  have failed := (h e).2 he
  rw [hx] at failed
  exact absurd failed (by simp)

theorem pure (a : α) : Reports (.ok a : Except ε α) [] := by
  intro e
  simp [FirstOf]

theorem one (h : ∀ e, x = .error e ↔ check e) : Reports x [check] := by
  intro e
  rw [h, firstOf_singleton]

theorem ite {c c' : Prop} [Decidable c] (hc : c ↔ c') (d : ε) (a : α) :
    Reports (if c then .error d else .ok a : Except ε α) [fun e => c' ∧ e = d] := by
  apply one
  intro e
  by_cases h : c
  · simp [h, hc.1 h, eq_comm]
  · simp [h, mt hc.2 h]

/-- The checks of a step after those of the step before it. They may take for granted that it
succeeded. -/
theorem bind {f : α → Except ε β} (hx : Reports x checks)
    (hf : ∀ a, x = .ok a → Reports (f a) more) : Reports (x >>= f) (checks ++ more) := by
  intro e
  rw [firstOf_append]
  cases hcase : x with
  | error d =>
    have hd : FirstOf checks d := (hx d).1 hcase
    change Except.error d = Except.error e ↔ _
    rw [← hx e, hcase, Except.error.injEq, Except.error.injEq]
    constructor
    · intro h
      exact .inl h
    · rintro (h | ⟨hnone, -⟩)
      · exact h
      -- the later checks only speak if none of the first step's does
      · obtain ⟨check, hcheck, d', hd'⟩ := exists_firstOf_iff.1 ⟨d, hd⟩
        exact absurd hd' (hnone check hcheck d')
  | ok a =>
    have hnone := hx.none_of_ok hcase
    change f a = .error e ↔ _
    rw [hf a hcase e, ← hx e, hcase]
    simp only [reduceCtorEq, false_or]
    exact ⟨fun h => ⟨hnone, h⟩, fun h => h.2⟩

theorem cons_bind {f : α → Except ε β} (hx : Reports x [check])
    (hf : ∀ a, x = .ok a → Reports (f a) more) : Reports (x >>= f) (check :: more) := hx.bind hf

theorem map (h : Reports x checks) (f : α → β) : Reports (x.map f) checks := by
  intro e
  rw [← h e]
  cases x <;> simp [Except.map]

theorem bind_ok (h : Reports x checks) (f : α → β) : Reports (x >>= fun a => .ok (f a)) checks := by
  have same : (x >>= fun a => .ok (f a)) = x.map f := by cases x <;> rfl
  rw [same]
  exact h.map f

theorem vacuous (hcheck : ∀ d, ¬ check d) (h : Reports x checks) : Reports x (check :: checks) := by
  intro e
  rw [h e, FirstOf]
  simp [hcheck]

theorem found {d : ε} (hcheck : ∀ e, check e ↔ e = d) :
    Reports (.error d : Except ε α) (check :: checks) := by
  intro e
  have finds : check d := (hcheck d).2 rfl
  rw [FirstOf, Except.error.injEq]
  constructor
  · rintro rfl
    exact .inl finds
  · rintro (h | ⟨hnone, -⟩)
    · exact ((hcheck e).1 h).symm
    · exact absurd finds (hnone d)

end Reports

/-- The error for the first of the items that is bad. -/
def Blamed (bad : α → Bool) (blame : α → ε) (items : List α) (e : ε) : Prop :=
  (items.find? bad).map blame = some e

theorem blamed_append {bad : α → Bool} {blame : α → ε} {xs ys : List α} {e : ε} :
    Blamed bad blame (xs ++ ys) e ↔ FirstOf [Blamed bad blame xs, Blamed bad blame ys] e := by
  unfold Blamed
  rw [List.find?_append]
  cases xs.find? bad <;> simp [FirstOf]

/-- A loop whose steps each blame the first bad item of their own blames the first of all. -/
theorem reports_mapM {f : β → Except ε γ} {bad : α → Bool} {blame : α → ε} {own : β → List α}
    (bs : List β) (hf : ∀ b ∈ bs, Reports (f b) [Blamed bad blame (own b)]) :
    Reports (bs.mapM f) [Blamed bad blame (bs.flatMap own)] := by
  induction bs with
  | nil =>
    apply Reports.vacuous
    · intro d
      simp [Blamed]
    · exact Reports.pure []
  | cons b rest ih =>
    rw [List.forall_mem_cons] at hf
    have steps : Reports ((b :: rest).mapM f)
        [Blamed bad blame (own b), Blamed bad blame (rest.flatMap own)] := by
      rw [List.mapM_cons]
      refine hf.1.cons_bind ?_
      intro y _
      exact (ih hf.2).bind_ok _
    intro e
    rw [steps e, firstOf_singleton, List.flatMap_cons, blamed_append]

theorem reports_mapM_self {f : α → Except ε β} {bad : α → Bool} {blame : α → ε} (xs : List α)
    (hf : ∀ x ∈ xs, Reports (f x) [fun e => bad x = true ∧ e = blame x]) :
    Reports (xs.mapM f) [Blamed bad blame xs] := by
  have each : ∀ x ∈ xs, Reports (f x) [Blamed bad blame [x]] := by
    intro x hx e
    rw [hf x hx e, firstOf_singleton, firstOf_singleton, Blamed]
    cases hbad : bad x <;> simp [hbad, eq_comm]
  have whole := reports_mapM xs each
  rwa [List.flatMap_singleton'] at whole

end SeriesBench
