import Mathlib.Data.Int.Range
import SeriesBench.Proofs.Success
import SeriesBench.Proofs.Time.Overlap
import SeriesBench.Time.Bucket

set_option autoImplicit false

/-!
# Buckets are the cells of a grid

Cell `k` of the grid of a width holds the times from `k` widths up to `k + 1`. Iterating over the
buckets of a span visits each cell that meets the span once, in ascending order, and then ends.
-/
namespace SeriesBench.Time

def ceilDiv (t width : Int) : Int := -(-t / width)

theorem lt_ceilDiv {t width : Int} (hw : 0 < width) (k : Int) :
    k < ceilDiv t width ↔ k * width < t := by
  have h := Int.ediv_lt_iff_lt_mul (a := -t) (b := -k) hw
  rw [Int.neg_mul] at h
  unfold ceilDiv
  omega

theorem le_floorDiv {t width : Int} (hw : 0 < width) (k : Int) :
    k ≤ t / width ↔ k * width ≤ t :=
  Int.le_ediv_iff_mul_le hw

theorem mem_cell_iff {t width : Int} (hw : 0 < width) (k : Int) :
    k = t / width ↔ k * width ≤ t ∧ t < (k + 1) * width := by
  have lower := le_floorDiv (t := t) hw k
  have upper := le_floorDiv (t := t) hw (k + 1)
  omega

theorem range_eq_nil {m n : Int} (h : n ≤ m) : Int.range m n = [] := by
  simp [Int.range, Int.toNat_of_nonpos (by omega : n - m ≤ 0)]

theorem range_eq_cons {m n : Int} (h : m < n) : Int.range m n = m :: Int.range (m + 1) n := by
  have length : (n - m).toNat = (n - (m + 1)).toNat + 1 := by omega
  simp only [Int.range, length, List.range_succ_eq_map, List.map_cons, List.map_map]
  congr 1
  · simp
  · apply List.map_congr_left
    intro r _
    simp only [Function.comp_apply]
    omega

theorem isChain_of_range {β : Type} {R : Int → β → Prop} {S : β → β → Prop}
    (hS : ∀ k y z, R k y → R (k + 1) z → S y z) {m n : Int} {ys : List β}
    (h : List.Forall₂ R (Int.range m n) ys) : ys.IsChain S := by
  induction ys generalizing m with
  | nil => exact .nil
  | cons y rest ih =>
    by_cases hm : m < n
    · rw [range_eq_cons hm, List.forall₂_cons] at h
      obtain ⟨hy, hrest⟩ := h
      cases rest with
      | nil => exact .singleton y
      | cons z rest =>
        refine List.isChain_cons_cons.2 ⟨?_, ih hrest⟩
        by_cases hm' : m + 1 < n
        · rw [range_eq_cons hm', List.forall₂_cons] at hrest
          exact hS m y z hy hrest.1
        · rw [range_eq_nil (by omega)] at hrest
          exact absurd hrest (by simp)
    · rw [range_eq_nil (by omega)] at h
      exact absurd h (by simp)

/-- Whether the bucket is cell `k` of the grid with the part of it in the span, of which there has
to be some. Only a cell that would end beyond the last timestamp is cut short. -/
structure Bucket.IsCell (span : Interval) (width k : Int) (b : Bucket) : Prop where
  raw_start : b.raw.start = k * width
  raw_stop : b.raw.stop = min ((k + 1) * width) maxTimestamp
  effective_start : b.effective.start = max b.raw.start span.start
  effective_stop : b.effective.stop = min b.raw.stop span.stop
  effective_nonempty : b.effective.start < b.effective.stop

def cellsOf (span : Interval) (width : Int) : List Int :=
  Int.range (span.start / width) (ceilDiv span.stop width)

namespace Buckets
variable {b : Buckets} {k : Int}

/-- The invariant of the iteration: cell `k` comes next, and it meets the span. -/
structure AtCell (b : Buckets) (k : Int) : Prop where
  span_nonempty : b.span.start < b.span.stop
  nextStart_eq : b.nextStart = some (k * b.width)
  start_lt : k * b.width < b.span.stop
  lt_stop : b.span.start < (k + 1) * b.width

theorem next?_eq_none (h : b.nextStart = none) : b.next? = none := by
  unfold next?
  split
  · rfl
  · rename_i hs
    rw [h] at hs
    exact absurd hs (by simp)

/-- What one step yields, and where it leads. The end of a cell that is cut short is not before the
end of any span, so the iteration ends there. -/
theorem AtCell.next? (h : b.AtCell k) : ∃ bucket rest, b.next? = some (bucket, rest) ∧
    bucket.IsCell b.span b.width k ∧ rest.span = b.span ∧ rest.width = b.width ∧
    rest.nextStart =
      if (k + 1) * b.width < b.span.stop then some ((k + 1) * b.width) else none := by
  have hw := b.width_pos
  have hmax := b.span.stop_le_max
  have hspan := h.span_nonempty
  have hstart := h.start_lt
  have hstop := h.lt_stop
  have step : (k + 1) * b.width = k * b.width + b.width := by rw [Int.add_mul, Int.one_mul]
  have cut : min (k * b.width + b.width) maxTimestamp < b.span.stop ∧
      k * b.width < min (k * b.width + b.width) maxTimestamp ↔
      (k + 1) * b.width < b.span.stop := by omega
  unfold Buckets.next?
  split
  · rename_i hs
    rw [h.nextStart_eq] at hs
    exact absurd hs (by simp)
  · rename_i s hs
    obtain rfl : k * b.width = s := by
      rw [h.nextStart_eq] at hs
      exact Option.some.inj hs
    rw [dif_pos hstart]
    refine ⟨_, _, rfl, ⟨rfl, ?_, rfl, ?_, ?_⟩, rfl, rfl, ?_⟩
    · rw [step]
    · simp only [Interval.clamp]
      omega
    · simp only [Interval.clamp]
      omega
    · change (if _ then _ else _) = _
      by_cases hend : (k + 1) * b.width < b.span.stop
      · rw [if_pos (cut.2 hend), if_pos hend]
        congr 1
        omega
      · rw [if_neg (fun hc => hend (cut.1 hc)), if_neg hend]

theorem take_of_next?_eq_none (h : b.next? = none) (n : Nat) : b.take n = ([], b) := by
  cases n with
  | zero => rfl
  | succ n => simp only [take, h]

theorem take_of_ended {m n : Nat} (hmn : m ≤ n) (h : (b.take m).2.next? = none) :
    b.take n = b.take m := by
  induction m generalizing b n with
  | zero => exact take_of_next?_eq_none h n
  | succ m ih =>
    obtain ⟨n, rfl⟩ : ∃ i, n = i + 1 := ⟨n - 1, by omega⟩
    simp only [take] at h ⊢
    cases hnext : b.next? with
    | none => rfl
    | some p =>
      simp only [hnext] at h ⊢
      rw [ih (by omega) h]

/-- A run from cell `k` on visits the rest of the cells if it is long enough. -/
theorem AtCell.take (h : b.AtCell k) (n : Nat) (hn : (ceilDiv b.span.stop b.width - k).toNat ≤ n) :
    List.Forall₂ (Bucket.IsCell b.span b.width) (Int.range k (ceilDiv b.span.stop b.width))
      (b.take n).1 ∧ (b.take n).2.next? = none := by
  induction n generalizing b k with
  | zero =>
    have := (lt_ceilDiv b.width_pos k).2 h.start_lt
    omega
  | succ n ih =>
    have more := (lt_ceilDiv b.width_pos k).2 h.start_lt
    have last := lt_ceilDiv (t := b.span.stop) b.width_pos (k + 1)
    obtain ⟨bucket, rest, hnext, hcell, hspan, hwidth, hrest⟩ := h.next?
    simp only [Buckets.take, hnext]
    rw [range_eq_cons more, List.forall₂_cons]
    by_cases hend : (k + 1) * b.width < b.span.stop
    · rw [if_pos hend] at hrest
      have hrest : rest.AtCell (k + 1) := by
        refine ⟨by rw [hspan]; exact h.span_nonempty, by rw [hrest, hwidth],
          by rwa [hspan, hwidth], ?_⟩
        have := h.lt_stop
        have := b.width_pos
        rw [hspan, hwidth, Int.add_mul (k + 1), Int.one_mul]
        omega
      have := ih hrest (by rw [hspan, hwidth]; omega)
      rw [hspan, hwidth] at this
      exact ⟨⟨hcell, this.1⟩, this.2⟩
    · rw [if_neg hend] at hrest
      have stopped := next?_eq_none hrest
      rw [take_of_next?_eq_none stopped, range_eq_nil (by omega)]
      exact ⟨⟨hcell, .nil⟩, stopped⟩

theorem AtCell.count_eq (h : b.AtCell k) : b.count = (ceilDiv b.span.stop b.width - k).toNat := by
  have hw := b.width_pos
  simp only [count, h.nextStart_eq]
  congr 1
  apply eq_of_forall_lt_iff
  intro j
  have cells := lt_ceilDiv (t := b.span.stop) hw (j + k)
  have count := le_floorDiv (t := b.span.stop - k * b.width + b.width - 1) hw (j + 1)
  rw [Int.add_mul] at cells
  rw [Int.add_mul, Int.one_mul] at count
  omega

theorem sub_emod_eq (t width : Int) : t - t % width = t / width * width := by
  have := Int.emod_add_mul_ediv t width
  rw [Int.mul_comm] at this
  omega

def Refused (span : Interval) (width : Duration) : Prop :=
  width.nanos = 0 ∨ maxTimestamp < width.nanos ∨
    span.start < span.stop ∧ span.start / width.nanos * width.nanos < minTimestamp

theorem over?_eq_none_iff (span : Interval) (width : Duration) :
    over? span width = none ↔ Refused span width := by
  have order := span.start_le_stop
  unfold over? Refused
  by_cases hw : 0 < (width.nanos : Int) ∧ (width.nanos : Int) ≤ maxTimestamp
  · rw [dif_pos hw]
    by_cases hempty : span.start = span.stop
    · simp [Interval.isEmpty, hempty]
      omega
    · simp only [Interval.isEmpty, hempty, beq_iff_eq, if_false, sub_emod_eq]
      by_cases hfirst : minTimestamp ≤ span.start / width.nanos * width.nanos
      · rw [dif_pos hfirst]
        simp only [reduceCtorEq, false_iff]
        omega
      · rw [dif_neg hfirst]
        simp only [true_iff]
        omega
  · rw [dif_neg hw]
    simp only [true_iff]
    omega

theorem over?_eq_some {span : Interval} {width : Duration} (h : over? span width = some b) :
    b.span = span ∧ b.width = width.nanos ∧
    (span.start < span.stop → b.AtCell (span.start / b.width)) ∧
    (span.start = span.stop → b.nextStart = none) := by
  unfold over? at h
  split at h
  · rename_i hw
    by_cases hempty : span.start = span.stop
    · simp only [Interval.isEmpty, hempty, beq_self_eq_true, if_true, Option.some.injEq] at h
      subst h
      refine ⟨rfl, rfl, fun hlt => absurd hempty (by omega), fun _ => rfl⟩
    · simp only [Interval.isEmpty, hempty, beq_iff_eq, if_false] at h
      split at h
      · cases h
        have cell := (mem_cell_iff (t := span.start) hw.1 (span.start / width.nanos)).1 rfl
        refine ⟨rfl, rfl, fun hlt => ⟨hlt, ?_, ?_, cell.2⟩, fun he => absurd he hempty⟩
        · exact congrArg some (sub_emod_eq span.start width.nanos)
        · exact Int.lt_of_le_of_lt cell.1 hlt
      · exact absurd h (by simp)
  · exact absurd h (by simp)

theorem nextStart_lt_stop (n : Nat) (h : ∀ s, b.nextStart = some s → s < b.span.stop) :
    ∀ s, (b.take n).2.nextStart = some s → s < b.span.stop := by
  induction n generalizing b with
  | zero => exact h
  | succ n ih =>
    simp only [take]
    cases hnext : b.next? with
    | none => exact h
    | some p =>
      obtain ⟨bucket, rest⟩ := p
      have hspan : rest.span = b.span ∧ ∀ s, rest.nextStart = some s → s < b.span.stop := by
        unfold next? at hnext
        split at hnext
        · exact absurd hnext (by simp)
        · split at hnext
          · cases hnext
            refine ⟨rfl, fun s hs => ?_⟩
            simp only at hs
            split at hs
            · simp only [Option.some.injEq] at hs
              omega
            · exact absurd hs (by simp)
          · exact absurd hnext (by simp)
      rw [← hspan.1]
      exact ih (by rw [hspan.1]; exact hspan.2)

end Buckets

section Cover
variable {span : Interval} {width : Int} {bs : List Bucket}

theorem Bucket.IsCell.mem_iff {k : Int} {b : Bucket} (h : b.IsCell span width k) (t : Int) :
    t ∈ b.effective ↔ t ∈ span ∧ k * width ≤ t ∧ t < (k + 1) * width := by
  have := span.stop_le_max
  simp only [Interval.mem_iff, h.effective_start, h.effective_stop, h.raw_start, h.raw_stop]
  omega

theorem Bucket.IsCell.eq_floor {k : Int} {b : Bucket} (h : b.IsCell span width k)
    (hw : 0 < width) {t : Int} (ht : t ∈ b.effective) : k = t / width :=
  (mem_cell_iff hw k).2 ((h.mem_iff t).1 ht).2

theorem Bucket.IsCell.unique {k : Int} {b c : Bucket} (hb : b.IsCell span width k)
    (hc : c.IsCell span width k) : b = c := by
  have raw : b.raw = c.raw :=
    Interval.eq_of_bounds (hb.raw_start.trans hc.raw_start.symm)
      (hb.raw_stop.trans hc.raw_stop.symm)
  have effective : b.effective = c.effective := by
    apply Interval.eq_of_bounds
    · rw [hb.effective_start, hc.effective_start, raw]
    · rw [hb.effective_stop, hc.effective_stop, raw]
  cases b
  cases c
  exact congr (congrArg Bucket.mk raw) effective

theorem Bucket.IsCell.meets {k : Int} {b c : Bucket} (hb : b.IsCell span width k)
    (hc : c.IsCell span width (k + 1)) : b.effective.stop = c.effective.start := by
  have hmax := span.stop_le_max
  have left := hb.effective_nonempty
  have right := hc.effective_nonempty
  rw [hb.effective_start, hb.effective_stop, hb.raw_start, hb.raw_stop] at left
  rw [hc.effective_start, hc.effective_stop, hc.raw_start, hc.raw_stop] at right
  rw [hb.effective_stop, hc.effective_start, hb.raw_stop, hc.raw_start]
  omega

theorem isChain_of_cells {m n : Int}
    (h : List.Forall₂ (Bucket.IsCell span width) (Int.range m n) bs) :
    bs.IsChain fun b c => b.effective.stop = c.effective.start :=
  isChain_of_range (fun _ _ _ hb hc => hb.meets hc) h

theorem mem_cellsOf_of_mem (hw : 0 < width) {t : Int} (ht : t ∈ span) :
    t / width ∈ cellsOf span width := by
  have ht := Interval.mem_iff.1 ht
  have cell := (mem_cell_iff (t := t) hw _).1 rfl
  rw [cellsOf, Int.mem_range_iff, lt_ceilDiv hw]
  exact ⟨Int.ediv_le_ediv hw ht.1, Int.lt_of_le_of_lt cell.1 ht.2⟩

theorem cellsOf_nonempty (hw : 0 < width) (hspan : span.start < span.stop) :
    span.start / width < ceilDiv span.stop width := by
  have cell := (mem_cell_iff (t := span.start) hw _).1 rfl
  exact (lt_ceilDiv hw _).2 (Int.lt_of_le_of_lt cell.1 hspan)

theorem head?_of_cells (hw : 0 < width) (hspan : span.start < span.stop)
    (h : List.Forall₂ (Bucket.IsCell span width) (cellsOf span width) bs) :
    bs.head?.map (·.effective.start) = some span.start := by
  rw [cellsOf, range_eq_cons (cellsOf_nonempty hw hspan), List.forall₂_cons_left_iff] at h
  obtain ⟨b, rest, hb, -, rfl⟩ := h
  have cell := (mem_cell_iff (t := span.start) hw _).1 rfl
  simp only [List.head?_cons, Option.map_some, hb.effective_start, hb.raw_start]
  congr 1
  omega

theorem getLast?_of_cells (hw : 0 < width) {m : Int} (hm : m < ceilDiv span.stop width)
    (h : List.Forall₂ (Bucket.IsCell span width) (Int.range m (ceilDiv span.stop width)) bs) :
    bs.getLast?.map (·.effective.stop) = some span.stop := by
  have hmax := span.stop_le_max
  induction bs generalizing m with
  | nil =>
    rw [range_eq_cons hm] at h
    exact absurd h (by simp)
  | cons b rest ih =>
    rw [range_eq_cons hm, List.forall₂_cons] at h
    obtain ⟨hb, hrest⟩ := h
    have next := lt_ceilDiv (t := span.stop) hw (m + 1)
    by_cases hm' : m + 1 < ceilDiv span.stop width
    · have hlast := ih hm' hrest
      cases rest with
      | nil => exact absurd hlast (by simp)
      | cons c rest => rwa [List.getLast?_cons_cons]
    · rw [range_eq_nil (by omega), List.forall₂_nil_left_iff] at hrest
      subst hrest
      simp only [List.getLast?_singleton, Option.map_some, hb.effective_stop, hb.raw_stop]
      congr 1
      omega

theorem pairwise_of_cells (hw : 0 < width) {m n : Int}
    (h : List.Forall₂ (Bucket.IsCell span width) (Int.range m n) bs) :
    (bs.map (·.effective)).Pairwise Interval.Apart := by
  induction bs generalizing m with
  | nil => exact .nil
  | cons b rest ih =>
    by_cases hm : m < n
    · rw [range_eq_cons hm, List.forall₂_cons] at h
      obtain ⟨hb, hrest⟩ := h
      refine List.pairwise_cons.2 ⟨?_, ih hrest⟩
      intro i hi
      obtain ⟨c, hc, rfl⟩ := List.mem_map.1 hi
      rintro ⟨t, hbt, hit⟩
      obtain ⟨k, hk, hck⟩ := exists_left_of_mem hrest hc
      have hmk := (Int.mem_range_iff.1 hk).1
      have hkm := (hb.eq_floor hw hbt).trans (hck.eq_floor hw hit).symm
      omega
    · rw [range_eq_nil (by omega)] at h
      exact absurd h (by simp)

theorem tiles_of_cells (hw : 0 < width)
    (h : List.Forall₂ (Bucket.IsCell span width) (cellsOf span width) bs) :
    Tiles span (bs.map (·.effective)) := by
  refine ⟨?_, pairwise_of_cells hw h⟩
  intro t
  constructor
  · intro ht
    obtain ⟨b, hb, hcell⟩ := exists_right_of_mem h (mem_cellsOf_of_mem hw ht)
    exact ⟨b.effective, List.mem_map_of_mem hb,
      (hcell.mem_iff t).2 ⟨ht, (mem_cell_iff hw _).1 rfl⟩⟩
  · rintro ⟨i, hi, ht⟩
    obtain ⟨b, hb, rfl⟩ := List.mem_map.1 hi
    obtain ⟨k, -, hcell⟩ := exists_left_of_mem h hb
    exact ((hcell.mem_iff t).1 ht).1

theorem existsUnique_of_cells (hw : 0 < width)
    (h : List.Forall₂ (Bucket.IsCell span width) (cellsOf span width) bs) {t : Int}
    (ht : t ∈ span) : ∃! b, b ∈ bs ∧ t ∈ b.effective := by
  obtain ⟨b, hb, hcell⟩ := exists_right_of_mem h (mem_cellsOf_of_mem hw ht)
  refine ⟨b, ⟨hb, (hcell.mem_iff t).2 ⟨ht, (mem_cell_iff hw _).1 rfl⟩⟩, ?_⟩
  rintro c ⟨hc, htc⟩
  obtain ⟨k, -, hk⟩ := exists_left_of_mem h hc
  obtain rfl := hk.eq_floor hw htc
  exact hk.unique hcell

theorem ceilDiv_sub_mul (hw : 0 < width) (t k : Int) :
    ceilDiv (t - k * width) width = ceilDiv t width - k := by
  have h : -(t - k * width) = -t + k * width := by omega
  unfold ceilDiv
  rw [h, Int.add_mul_ediv_right _ _ (Int.ne_of_gt hw)]
  omega

end Cover

namespace Buckets
variable {span : Interval} {width : Duration} {b : Buckets}

theorem nextStart_lt_of_over? (h : over? span width = some b) :
    ∀ s, b.nextStart = some s → s < b.span.stop := by
  obtain ⟨hspan, -, hcell, hempty⟩ := over?_eq_some h
  intro s hs
  rcases Int.lt_or_eq_of_le span.start_le_stop with hlt | heq
  · have hcell := hcell hlt
    rw [hcell.nextStart_eq, Option.some.injEq] at hs
    rw [← hs]
    exact hcell.start_lt
  · rw [hempty heq] at hs
    exact absurd hs (by simp)

theorem take_of_over? (h : over? span width = some b) (hspan : span.start < span.stop) (n : Nat)
    (hn : b.count ≤ n) : List.Forall₂ (Bucket.IsCell span width.nanos)
      (cellsOf span width.nanos) (b.take n).1 ∧ (b.take n).2.next? = none := by
  obtain ⟨rfl, hwidth, hcell, -⟩ := over?_eq_some h
  have hcell := hcell hspan
  rw [hcell.count_eq] at hn
  rw [← hwidth]
  exact hcell.take n hn

theorem toList_of_over? (h : over? span width = some b) (hspan : span.start < span.stop) :
    List.Forall₂ (Bucket.IsCell span width.nanos) (cellsOf span width.nanos) b.toList :=
  (take_of_over? h hspan b.count (Nat.le_refl _)).1

theorem take_of_over?_empty (h : over? span width = some b) (hspan : span.start = span.stop)
    (n : Nat) : b.take n = ([], b) ∧ b.next? = none := by
  have hnext := next?_eq_none ((over?_eq_some h).2.2.2 hspan)
  exact ⟨take_of_next?_eq_none hnext n, hnext⟩

theorem ended_of_over? (h : over? span width = some b) :
    (b.take b.count).2.next? = none := by
  by_cases hspan : span.start < span.stop
  · exact (take_of_over? h hspan b.count (Nat.le_refl _)).2
  · have hempty := take_of_over?_empty h (Int.le_antisymm span.start_le_stop (by omega))
    rw [(hempty b.count).1]
    exact (hempty 0).2

/-- The buckets that the iteration yields for a span and a width: one for each cell that meets the
span, and none for an empty span. -/
structure Enumerates (span : Interval) (width : Int) (b : Buckets) : Prop where
  ends : ∀ n, b.count ≤ n → (b.take n).1 = b.toList ∧ (b.take n).2.next? = none
  in_range : ∀ n s, (b.take n).2.nextStart = some s → minTimestamp ≤ s ∧ s ≤ maxTimestamp
  empty : span.start = span.stop → b.toList = []
  cells : span.start < span.stop →
    List.Forall₂ (Bucket.IsCell span width) (cellsOf span width) b.toList
  length : span.start < span.stop →
    b.toList.length = (ceilDiv (span.stop - span.start / width * width) width).toNat
  first : span.start < span.stop → b.toList.head?.map (·.effective.start) = some span.start
  last : span.start < span.stop → b.toList.getLast?.map (·.effective.stop) = some span.stop
  adjacent : b.toList.IsChain fun c d => c.effective.stop = d.effective.start
  covers : ∀ t ∈ span, ∃! c, c ∈ b.toList ∧ t ∈ c.effective

/-- The buckets of a span are refused just when a width is no timestamp or a first cell would begin
before the first timestamp; otherwise they are the cells of the grid. -/
theorem enumerates_cells (span : Interval) (width : Duration) :
    (over? span width = none ↔ Refused span width) ∧
    ∀ b ∈ over? span width, Enumerates span width.nanos b := by
  refine ⟨over?_eq_none_iff span width, ?_⟩
  intro b hb
  have h : over? span width = some b := hb
  have hwidth := (over?_eq_some h).2.1
  have hw : 0 < (width.nanos : Int) := hwidth ▸ b.width_pos
  have empty : span.start = span.stop → b.toList = [] := fun hspan =>
    congrArg Prod.fst (take_of_over?_empty h hspan b.count).1
  have cells : span.start < span.stop → List.Forall₂ (Bucket.IsCell span width.nanos)
      (cellsOf span width.nanos) b.toList := toList_of_over? h
  refine ⟨?ends, ?in_range, empty, cells, ?length, ?first, ?last, ?adjacent, ?covers⟩
  case ends =>
    intro n hn
    have ended := ended_of_over? h
    rw [take_of_ended hn ended]
    exact ⟨rfl, ended⟩
  case in_range =>
    intro n s hs
    refine ⟨(b.take n).2.min_le_nextStart s hs, ?_⟩
    have := nextStart_lt_stop n (nextStart_lt_of_over? h) s hs
    have := b.span.stop_le_max
    omega
  case length =>
    intro hspan
    rw [ceilDiv_sub_mul hw, ← (cells hspan).length_eq, cellsOf, Int.range, List.length_map,
      List.length_range]
  case first => exact fun hspan => head?_of_cells hw hspan (cells hspan)
  case last =>
    exact fun hspan => getLast?_of_cells hw (cellsOf_nonempty hw hspan) (cells hspan)
  case adjacent =>
    rcases Int.lt_or_eq_of_le span.start_le_stop with hspan | hspan
    · exact isChain_of_cells (cells hspan)
    · rw [empty hspan]
      exact .nil
  case covers =>
    intro t ht
    have := Interval.mem_iff.1 ht
    exact existsUnique_of_cells hw (cells (by omega)) ht

end Buckets
end SeriesBench.Time
