import Mathlib.Data.List.Forall2
import SeriesBench.Random.Uniform

set_option autoImplicit false

/-!
# What holds of every draw

A property of a draw holds whatever the state of the generator is. A number below a size is below it
even when all tries are used up.
-/
namespace SeriesBench.Random
variable {α β : Type}

def Always (x : Draw α) (P : α → Prop) : Prop := ∀ g, P (x.run g).1

namespace Always
variable {P Q : α → Prop} {R : β → Prop} {x : Draw α}

theorem pure {a : α} (h : P a) : Always (Pure.pure a) P := fun _ => h

theorem bind {f : α → Draw β} (hx : Always x P) (hf : ∀ a, P a → Always (f a) R) :
    Always (x >>= f) R :=
  fun g => hf _ (hx g) (x.run g).2

theorem mono (hx : Always x P) (h : ∀ a, P a → Q a) : Always x Q := fun g => h _ (hx g)

theorem trivial (x : Draw α) : Always x fun _ => True := fun _ => True.intro

end Always

theorem Width.draw_lt (width : Width) : Always width.draw (· < width.size) := by
  intro g
  have h := g.word.toNat_lt_size
  cases width with
  | full => exact h
  | half =>
    change g.word.toNat / UInt32.size < UInt32.size
    rw [Nat.div_lt_iff_lt_mul (by decide)]
    exact h

theorem drawWithin_lt (width : Width) (bound : Nat) {size : Nat} (hsize : 0 < size)
    (tries : Nat) : Always (drawWithin width bound size tries) (· < size) := by
  have upper (n : Nat) (hn : n < width.size) : n * size / width.size < size := by
    rw [Nat.div_lt_iff_lt_mul (by omega), Nat.mul_comm size]
    exact Nat.mul_lt_mul_of_pos_right hn hsize
  induction tries with
  | zero => exact width.draw_lt.bind fun n hn => .pure (upper n hn)
  | succ tries ih =>
    refine width.draw_lt.bind fun n hn => ?_
    dsimp only
    split
    · exact .pure (upper n hn)
    · exact ih

theorem drawBelow_lt (width : Width) {size : Nat} (hsize : 0 < size) :
    Always (drawBelow width size) (· < size) :=
  drawWithin_lt width _ hsize _

theorem pick_mem [Inhabited α] (width : Width) (items : Array α) :
    Always (pick width items) fun a => a ∈ items ∨ a = default := by
  refine (Always.trivial (drawBelow width items.size)).bind fun i _ => .pure ?_
  rw [Array.getD_eq_getD_getElem?]
  cases h : items[i]? with
  | none => exact .inr rfl
  | some a => exact .inl (Array.mem_of_getElem? h)

theorem mapM_always {f : α → Draw β} {R : α → β → Prop} (xs : List α)
    (h : ∀ x ∈ xs, Always (f x) (R x)) : Always (xs.mapM f) (List.Forall₂ R xs) := by
  induction xs with
  | nil =>
    rw [List.mapM_nil]
    exact .pure .nil
  | cons x rest ih =>
    rw [List.mapM_cons]
    exact (h x (by simp)).bind fun y hy =>
      (ih fun z hz => h z (by simp [hz])).bind fun ys hys => .pure (.cons hy hys)

/-- What is drawn first does not depend on what is drawn later. -/
theorem prefix_run_mapM {f : α → Draw β} {xs ys : List α} (h : xs <+: ys) (g : Generator) :
    ((xs.mapM f).run g).1 <+: ((ys.mapM f).run g).1 := by
  obtain ⟨zs, rfl⟩ := h
  rw [List.mapM_append]
  exact List.prefix_append _ _

end SeriesBench.Random
