import SeriesBench.Workload.Sampler

set_option autoImplicit false

namespace SeriesBench
variable {σ α β : Type}

theorem run_bind (x : ExceptT Failure (StateM σ) α)
    (f : α → ExceptT Failure (StateM σ) β) (s : σ) : (x >>= f).run s =
      match x.run s with
      | (.ok a, t) => (f a).run t
      | (.error e, t) => (.error e, t) := by
  change (ExceptT.bind x f).run s = _
  simp only [ExceptT.bind, ExceptT.mk, ExceptT.run, Bind.bind, StateT.bind]
  rcases x s with ⟨r, t⟩
  cases r <;> rfl

/-- From each state with `pre` a run ends in `post` with its result, or in `failed`. -/
def Runs (pre : σ → Prop) (x : ExceptT Failure (StateM σ) α) (post : α → σ → Prop)
    (failed : σ → Prop) : Prop :=
  ∀ s, pre s → (∀ a, (x.run s).1 = .ok a → post a (x.run s).2) ∧
    ∀ e, (x.run s).1 = .error e → failed (x.run s).2

namespace Runs
variable {pre : σ → Prop} {x : ExceptT Failure (StateM σ) α} {mid post : α → σ → Prop}
  {failed : σ → Prop}

theorem bind {f : α → ExceptT Failure (StateM σ) β} {last : β → σ → Prop}
    (hx : Runs pre x mid failed) (hf : ∀ a, Runs (mid a) (f a) last failed) :
    Runs pre (x >>= f) last failed := by
  intro s hs
  obtain ⟨hok, herror⟩ := hx s hs
  rw [run_bind]
  generalize x.run s = r at hok herror
  obtain ⟨r, t⟩ := r
  cases r with
  | ok a => exact hf a t (hok a rfl)
  | error e =>
    refine ⟨?_, ?_⟩
    · intro b hb
      exact absurd hb (by simp)
    · intro e' _
      exact herror e rfl

theorem ite_bind {p : Prop} [Decidable p] {y : ExceptT Failure (StateM σ) α}
    {f : α → ExceptT Failure (StateM σ) β} {last : β → σ → Prop}
    (hxy : Runs pre (if p then x else y) mid failed) (hf : ∀ a, Runs (mid a) (f a) last failed) :
    Runs pre (if p then x >>= f else y >>= f) last failed := by
  by_cases hp : p
  · rw [if_pos hp] at hxy ⊢
    exact hxy.bind hf
  · rw [if_neg hp] at hxy ⊢
    exact hxy.bind hf

theorem pure {a : α} (h : ∀ s, pre s → post a s) : Runs pre (Pure.pure a) post failed := by
  intro s hs
  refine ⟨?_, ?_⟩
  · intro b hb
    cases hb
    exact h s hs
  · intro e he
    cases he

theorem ofExcept (x : Except Failure α) :
    Runs pre (MonadExcept.ofExcept x) (fun a s => x = .ok a ∧ pre s) pre := by
  intro s hs
  cases x with
  | ok a =>
    refine ⟨?_, ?_⟩
    · intro b hb
      cases hb
      exact ⟨rfl, hs⟩
    · intro e he
      cases he
  | error e =>
    refine ⟨?_, ?_⟩
    · intro b hb
      cases hb
    · intro _ _
      exact hs

theorem throw {e : Failure} (h : ∀ s, pre s → failed s) :
    Runs pre (MonadExcept.throw e) post failed := by
  intro s hs
  refine ⟨?_, ?_⟩
  · intro b hb
    cases hb
  · intro e' _
    exact h s hs

theorem fact {p : Prop} (hx : p → Runs pre x post failed) :
    Runs (fun s => p ∧ pre s) x post failed :=
  fun s hs => hx hs.1 s hs.2

theorem get : Runs pre (MonadStateOf.get) (fun a s => pre a ∧ pre s) failed := by
  intro s hs
  refine ⟨?_, ?_⟩
  · intro a ha
    cases ha
    exact ⟨hs, hs⟩
  · intro e he
    cases he

theorem modifyGet {f : σ → α × σ} (h : ∀ s, pre s → post (f s).1 (f s).2) :
    Runs pre (MonadStateOf.modifyGet f) post failed := by
  intro s hs
  refine ⟨?_, ?_⟩
  · intro b hb
    cases hb
    exact h s hs
  · intro e he
    cases he

theorem imp {pre' : σ → Prop} {post' : α → σ → Prop} (hx : Runs pre x post failed)
    (hpre : ∀ s, pre' s → pre s) (hpost : ∀ a s, post a s → post' a s) :
    Runs pre' x post' failed := by
  intro s hs
  obtain ⟨hok, herror⟩ := hx s (hpre s hs)
  exact ⟨fun a ha => hpost a _ (hok a ha), herror⟩

end Runs
end SeriesBench
