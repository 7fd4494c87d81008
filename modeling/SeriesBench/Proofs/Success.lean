import Mathlib.Data.List.Forall2

set_option autoImplicit false

namespace SeriesBench
variable {α β γ ε : Type}

theorem exists_left_of_mem {R : α → β → Prop} {xs : List α} {ys : List β} (h : List.Forall₂ R xs ys)
    {y : β} (hy : y ∈ ys) : ∃ x ∈ xs, R x y := by
  induction h with
  | nil => exact absurd hy (by simp)
  | cons hr _ ih =>
    rcases List.mem_cons.1 hy with rfl | hy
    · exact ⟨_, by simp, hr⟩
    · obtain ⟨x, hx, hxy⟩ := ih hy
      exact ⟨x, by simp [hx], hxy⟩

theorem exists_right_of_mem {R : α → β → Prop} {xs : List α} {ys : List β}
    (h : List.Forall₂ R xs ys) {x : α} (hx : x ∈ xs) : ∃ y ∈ ys, R x y := by
  obtain ⟨y, hy, hr⟩ := exists_left_of_mem h.flip hx
  exact ⟨y, hy, hr⟩

theorem filter_of_forall₂ {R : α → β → Prop} {xs : List α} {ys : List β} (h : List.Forall₂ R xs ys)
    {p : α → Bool} {q : β → Bool} (hpq : ∀ x y, R x y → q y = p x) :
    List.Forall₂ R (xs.filter p) (ys.filter q) := by
  induction h with
  | nil => exact .nil
  | @cons x y xs ys hr _ ih =>
    have same := hpq x y hr
    cases hp : p x with
    | true => simpa only [List.filter_cons, same, hp, if_true] using .cons hr ih
    | false => simpa only [List.filter_cons, same, hp, Bool.false_eq_true, if_false] using ih

theorem exists_sublist_of_forall₂ {R : α → β → Prop} {xs xs' : List α} {ys : List β}
    (hsub : xs'.Sublist xs) (h : List.Forall₂ R xs ys) :
    ∃ ys', ys'.Sublist ys ∧ List.Forall₂ R xs' ys' := by
  induction hsub generalizing ys with
  | slnil => exact ⟨[], ys.nil_sublist, .nil⟩
  | cons x _ ih =>
    obtain ⟨y, rest, -, hrest, rfl⟩ := List.forall₂_cons_left_iff.1 h
    obtain ⟨ys', hys, hr⟩ := ih hrest
    exact ⟨ys', hys.cons y, hr⟩
  | cons_cons x _ ih =>
    obtain ⟨y, rest, hy, hrest, rfl⟩ := List.forall₂_cons_left_iff.1 h
    obtain ⟨ys', hys, hr⟩ := ih hrest
    exact ⟨y :: ys', hys.cons_cons y, .cons hy hr⟩

theorem countP_of_forall₂ {R : α → β → Prop} {xs : List α} {ys : List β} (h : List.Forall₂ R xs ys)
    {p : α → Bool} {q : β → Bool} (hpq : ∀ x y, R x y → q y = p x) :
    ys.countP q = xs.countP p := by
  rw [List.countP_eq_length_filter, List.countP_eq_length_filter]
  exact (filter_of_forall₂ h hpq).length_eq.symm

theorem nodup_map_of_forall₂ {R : α → β → Prop} {xs : List α} {ys : List β}
    (h : List.Forall₂ R xs ys) {f : α → γ} {g : β → ε} (hxs : (xs.map f).Nodup)
    (hfg : ∀ x x' y y', R x y → R x' y' → g y = g y' → f x = f x') : (ys.map g).Nodup := by
  induction h with
  | nil => exact .nil
  | @cons x y xs ys hr hrest ih =>
    rw [List.map_cons, List.nodup_cons] at hxs ⊢
    refine ⟨?_, ih hxs.2⟩
    intro hmem
    obtain ⟨y', hy', hg⟩ := List.mem_map.1 hmem
    obtain ⟨x', hx', hr'⟩ := exists_left_of_mem hrest hy'
    apply hxs.1
    rw [hfg x x' y y' hr hr' hg.symm]
    exact List.mem_map_of_mem hx'

theorem bind_eq_ok_iff {x : Except ε α} {f : α → Except ε β} {b : β} :
    x >>= f = .ok b ↔ ∃ a, x = .ok a ∧ f a = .ok b := by
  cases x with
  | error e => simp [bind, Except.bind]
  | ok a => simp [bind, Except.bind]

theorem map_eq_ok_iff {x : Except ε α} {f : α → β} {b : β} :
    x.map f = .ok b ↔ ∃ a, x = .ok a ∧ f a = b := by
  cases x with
  | error e => simp [Except.map]
  | ok a => simp [Except.map]

theorem mapM_eq_ok_iff {f : α → Except ε β} {xs : List α} {ys : List β} :
    xs.mapM f = .ok ys ↔ List.Forall₂ (fun x y => f x = .ok y) xs ys := by
  induction xs generalizing ys with
  | nil =>
    rw [List.mapM_nil, List.forall₂_nil_left_iff]
    change Except.ok [] = Except.ok ys ↔ _
    rw [Except.ok.injEq, eq_comm]
  | cons x xs ih =>
    rw [List.mapM_cons, List.forall₂_cons_left_iff]
    constructor
    · intro h
      obtain ⟨y, hx, h⟩ := bind_eq_ok_iff.1 h
      obtain ⟨zs, hxs, h⟩ := bind_eq_ok_iff.1 h
      exact ⟨y, zs, hx, ih.1 hxs, (Except.ok.inj h).symm⟩
    · rintro ⟨y, zs, hx, hxs, rfl⟩
      rw [hx, ih.2 hxs]
      rfl

theorem exists_forall₂ {R : α → β → Prop} {xs : List α} (h : ∀ x ∈ xs, ∃ y, R x y) :
    ∃ ys, List.Forall₂ R xs ys := by
  induction xs with
  | nil => exact ⟨[], .nil⟩
  | cons x xs ih =>
    obtain ⟨y, hy⟩ := h x (by simp)
    obtain ⟨ys, hys⟩ := ih fun z hz => h z (by simp [hz])
    exact ⟨y :: ys, .cons hy hys⟩

end SeriesBench
