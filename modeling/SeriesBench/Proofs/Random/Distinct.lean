import Mathlib.Data.List.Perm.Subperm
import SeriesBench.Proofs.Random.Draws
import SeriesBench.Random.Sample

set_option autoImplicit false

namespace SeriesBench.Random

structure Distinct (length amount : Nat) (xs : List Nat) : Prop where
  length_eq : xs.length = amount
  nodup : xs.Nodup
  lt : ∀ n ∈ xs, n < length

section Shuffle

theorem swapIfInBounds_perm (xs : Array Nat) (i j : Nat) :
    (xs.swapIfInBounds i j).toList.Perm xs.toList := by
  rw [Array.swapIfInBounds_def]
  split
  · split
    · exact (Array.swap_perm _ _).toList
    · exact .refl _
  · exact .refl _

theorem shuffleFront_perm (count i : Nat) (xs : Array Nat) :
    Always (shuffleFront count i xs) fun ys => ys.toList.Perm xs.toList := by
  induction count generalizing i xs with
  | zero => exact .pure (.refl _)
  | succ count ih =>
    refine (Always.trivial _).bind fun j _ => ?_
    exact (ih _ _).mono fun ys hys => hys.trans (swapIfInBounds_perm _ _ _)

theorem shuffleBack_perm (i : Nat) (xs : Array Nat) :
    Always (shuffleBack i xs) fun ys => ys.toList.Perm xs.toList := by
  induction i generalizing xs with
  | zero => exact .pure (.refl _)
  | succ i ih =>
    refine (Always.trivial _).bind fun j _ => ?_
    exact (ih _).mono fun ys hys => hys.trans (swapIfInBounds_perm _ _ _)

theorem Distinct.perm {length amount : Nat} {xs ys : List Nat} (h : Distinct length amount xs)
    (hp : ys.Perm xs) : Distinct length amount ys :=
  ⟨hp.length_eq.trans h.length_eq, hp.nodup_iff.2 h.nodup, fun n hn => h.lt n (hp.mem_iff.1 hn)⟩

theorem sampleByShuffle_distinct {length amount : Nat} (h : amount ≤ length) :
    Always (sampleByShuffle length amount) (Distinct length amount) := by
  refine (shuffleFront_perm amount 0 (Array.range length)).bind fun ys hys => .pure ?_
  rw [Array.toList_range] at hys
  refine ⟨?_, ?_, ?_⟩
  · rw [List.length_take, hys.length_eq, List.length_range]
    omega
  · exact (hys.nodup_iff.2 List.nodup_range).sublist (List.take_sublist _ _)
  · intro n hn
    exact List.mem_range.1 (hys.mem_iff.1 (List.mem_of_mem_take hn))

end Shuffle

section Growth

/-- The new number is either one that was not there or the greatest that can be drawn. -/
theorem addUpTo_distinct (inFront : Bool) {j amount : Nat} {xs : List Nat}
    (h : Distinct j amount xs) :
    Always (addUpTo inFront j xs) (Distinct (j + 1) (amount + 1)) := by
  have grown {n : Nat} (hn : n ∉ xs) (hlt : n < j + 1) :
      Distinct (j + 1) (amount + 1) (n :: xs) := by
    refine ⟨by rw [List.length_cons, h.length_eq], List.nodup_cons.2 ⟨hn, h.nodup⟩, ?_⟩
    intro m hm
    rcases List.mem_cons.1 hm with rfl | hm
    · exact hlt
    · exact Nat.lt_succ_of_lt (h.lt m hm)
  have hj : j ∉ xs := fun hmem => Nat.lt_irrefl j (h.lt j hmem)
  refine (drawBelow_lt .half (Nat.succ_pos j)).bind fun t ht => ?_
  split
  · cases inFront with
    | true =>
      refine .pure ((grown hj (Nat.lt_succ_self j)).perm ?_)
      exact List.perm_insertIdx j xs List.idxOf_le_length
    | false =>
      exact .pure ((grown hj (Nat.lt_succ_self j)).perm List.perm_append_comm)
  · rename_i hmem
    exact .pure ((grown hmem ht).perm List.perm_append_comm)

theorem addAll_distinct (inFront : Bool) (count : Nat) {j amount : Nat} {xs : List Nat}
    (h : Distinct j amount xs) :
    Always (addAll inFront count j xs) (Distinct (j + count) (amount + count)) := by
  induction count generalizing j amount xs with
  | zero => exact .pure h
  | succ count ih =>
    refine (addUpTo_distinct inFront h).bind fun ys hys => (ih hys).mono fun zs hzs => ?_
    rwa [Nat.add_assoc, Nat.add_comm 1, Nat.add_assoc, Nat.add_comm 1] at hzs

theorem sampleByGrowth_distinct {length amount : Nat} (h : amount ≤ length) :
    Always (sampleByGrowth length amount) (Distinct length amount) := by
  have none : Distinct (length - amount) 0 [] := ⟨rfl, .nil, by simp⟩
  have all (inFront : Bool) : Always (addAll inFront amount (length - amount) [])
      (Distinct length amount) := by
    have := addAll_distinct inFront amount none
    rwa [Nat.sub_add_cancel h, Nat.zero_add] at this
  unfold sampleByGrowth
  split
  · exact all true
  · refine (all false).bind fun xs hxs => ?_
    exact (shuffleBack_perm _ _).bind fun ys hys => .pure (hxs.perm hys)

end Growth

section Rejection

theorem exists_unseen (seen : Std.HashSet Nat) :
    ∃ n ∈ List.range (seen.size + 1), seen.contains n = false := by
  by_contra h
  have hsub : List.range (seen.size + 1) ⊆ seen.toList := by
    intro n hn
    rw [Std.HashSet.mem_toList, ← Std.HashSet.contains_iff_mem]
    by_contra hc
    exact h ⟨n, hn, by simpa using hc⟩
  have hle := (List.nodup_range.subperm hsub).length_le
  rw [List.length_range, Std.HashSet.length_toList] at hle
  omega

theorem drawUnseen_spec (width : Width) {length : Nat} {seen : Std.HashSet Nat}
    (h : seen.size < length) (tries : Nat) :
    Always (drawUnseen width length seen tries) fun n =>
      n < length ∧ seen.contains n = false := by
  induction tries with
  | zero =>
    refine .pure ?_
    obtain ⟨n, hn, hseen⟩ := exists_unseen seen
    cases hfind : (List.range (seen.size + 1)).find? fun n => !seen.contains n with
    | none =>
      have := List.find?_eq_none.1 hfind n hn
      rw [hseen] at this
      exact absurd rfl this
    | some m =>
      have hm := List.mem_range.1 (List.mem_of_find?_eq_some hfind)
      have hc := List.find?_some hfind
      refine ⟨?_, by simpa using hc⟩
      rw [Option.getD_some]
      omega
  | succ tries ih =>
    refine (drawWithin_lt width _ (by omega) _).bind fun n hn => ?_
    split
    · exact ih
    · rename_i hseen
      exact .pure ⟨hn, by simpa using hseen⟩

theorem drawAllUnseen_spec (width : Width) {length count : Nat} {seen : Std.HashSet Nat}
    (h : seen.size + count ≤ length) :
    Always (drawAllUnseen width length count seen) fun xs =>
      Distinct length count xs ∧ ∀ n ∈ xs, seen.contains n = false := by
  induction count generalizing seen with
  | zero => exact .pure ⟨⟨rfl, .nil, by simp⟩, by simp⟩
  | succ count ih =>
    refine (drawUnseen_spec width (by omega) _).bind fun n hn => ?_
    have hsize := Std.HashSet.size_insert_le (m := seen) (k := n)
    have hroom : (seen.insert n).size + count ≤ length := by omega
    refine (ih hroom).bind fun xs hxs => .pure ?_
    obtain ⟨hdistinct, hunseen⟩ := hxs
    have hnew (m : Nat) (hm : m ∈ xs) : n ≠ m ∧ seen.contains m = false := by
      have := hunseen m hm
      rw [Std.HashSet.contains_insert, Bool.or_eq_false_iff] at this
      exact ⟨by simpa using this.1, this.2⟩
    refine ⟨⟨by rw [List.length_cons, hdistinct.length_eq], ?_, ?_⟩, ?_⟩
    · exact List.nodup_cons.2 ⟨fun hmem => (hnew n hmem).1 rfl, hdistinct.nodup⟩
    · intro m hm
      rcases List.mem_cons.1 hm with rfl | hm
      · exact hn.1
      · exact hdistinct.lt m hm
    · intro m hm
      rcases List.mem_cons.1 hm with rfl | hm
      · exact hn.2
      · exact (hnew m hm).2

end Rejection

theorem sample_distinct {length amount : Nat} (h : amount ≤ length) :
    Always (sample length amount) (Distinct length amount) := by
  have hroom : (∅ : Std.HashSet Nat).size + amount ≤ length := by simpa using h
  have rejection (width : Width) : Always (sampleByRejection width length amount)
      (Distinct length amount) :=
    (drawAllUnseen_spec width hroom).mono fun _ hxs => hxs.1
  unfold sample
  split
  · exact rejection .full
  · split
    · split
      · exact sampleByShuffle_distinct h
      · exact sampleByGrowth_distinct h
    · split
      · exact sampleByShuffle_distinct h
      · exact rejection .half

end SeriesBench.Random
