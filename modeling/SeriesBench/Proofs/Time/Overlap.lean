import Mathlib.Order.Basic
import SeriesBench.Time.Interval

set_option autoImplicit false

namespace SeriesBench.Time
namespace Interval

def Meets (i j : Interval) : Prop := ∃ t, t ∈ i ∧ t ∈ j

theorem overlaps_iff {i j : Interval} : i.overlaps j = true ↔ i.Meets j := by
  simp only [overlaps, decide_eq_true_eq, Meets, mem_iff]
  constructor
  · intro h
    exact ⟨max i.start j.start, by omega⟩
  · rintro ⟨t, hi, hj⟩
    omega

instance (i j : Interval) : Decidable (i.Meets j) := decidable_of_iff _ overlaps_iff

theorem Meets.symm {i j : Interval} (h : i.Meets j) : j.Meets i := by
  obtain ⟨t, hi, hj⟩ := h
  exact ⟨t, hj, hi⟩

def Apart (i j : Interval) : Prop := ¬ i.Meets j

theorem Apart.not_mem {i j : Interval} (h : i.Apart j) {t : Int} (hi : t ∈ i) : t ∉ j :=
  fun hj => h ⟨t, hi, hj⟩

theorem eq_of_bounds {i j : Interval} (hstart : i.start = j.start) (hstop : i.stop = j.stop) :
    i = j := by
  cases i
  cases j
  simp_all

theorem isEmpty_eq_false_iff {i : Interval} : i.isEmpty = false ↔ ∃ t, t ∈ i := by
  have order := i.start_le_stop
  simp only [isEmpty, beq_eq_false_iff_ne, mem_iff]
  constructor
  · intro h
    exact ⟨i.start, by omega⟩
  · rintro ⟨t, ht⟩
    omega

theorem between?_ends (i : Interval) :
    between? i.startTimestamp i.stopTimestamp = some i := dif_pos i.start_le_stop

theorem mem_clamp_iff {i span : Interval} {t : Int} : t ∈ i.clamp span ↔ t ∈ i ∧ t ∈ span := by
  simp only [mem_iff, clamp]
  omega

theorem clamp_clamp (i span : Interval) : (i.clamp span).clamp span = i.clamp span := by
  apply eq_of_bounds
  · simp only [clamp]
    omega
  · simp only [clamp]
    omega

theorem exists_timestamp_iff {p : Int → Prop} {i : Interval} :
    (∃ t : Timestamp, t.val ∈ i ∧ p t.val) ↔ ∃ t, t ∈ i ∧ p t := by
  constructor
  · rintro ⟨t, ht, hp⟩
    exact ⟨t.val, ht, hp⟩
  · rintro ⟨t, ht, hp⟩
    have bounds : minTimestamp ≤ t ∧ t ≤ maxTimestamp :=
      ⟨Int.le_trans i.min_le_start ht.1, Int.le_trans (Int.le_of_lt ht.2) i.stop_le_max⟩
    exact ⟨⟨t, bounds⟩, ht, hp⟩

/-- Clamping intersects. Whether two intervals overlap does not depend on their order: they do if
some timestamp lies in both, and that is if the part of one within the other is not empty. That part
is an interval, even if the two lie apart or are empty, holds the times that lie in both, and
clamping it once more changes nothing. -/
theorem clamp_is_intersection (a b : Interval) :
    (a.overlaps b = true ↔ ∃ t : Timestamp, a.contains t.val = true ∧ b.contains t.val = true) ∧
      a.overlaps b = b.overlaps a ∧
      (a.overlaps b = true ↔ (a.clamp b).isEmpty = false) ∧
      between? (a.clamp b).startTimestamp (a.clamp b).stopTimestamp = some (a.clamp b) ∧
      (∀ t, (a.clamp b).contains t = true ↔ a.contains t = true ∧ b.contains t = true) ∧
      (a.clamp b).clamp b = a.clamp b := by
  simp only [contains_iff]
  refine ⟨?_, ?_, ?_, between?_ends _, fun t => mem_clamp_iff, clamp_clamp a b⟩
  · rw [overlaps_iff, exists_timestamp_iff]
    rfl
  · rw [Bool.eq_iff_iff, overlaps_iff, overlaps_iff]
    exact ⟨Meets.symm, Meets.symm⟩
  · rw [overlaps_iff, isEmpty_eq_false_iff]
    simp only [mem_clamp_iff]
    rfl

end Interval

/-- The parts share no time, and together they hold the times of the span. -/
structure Tiles (span : Interval) (parts : List Interval) : Prop where
  mem_iff : ∀ t, t ∈ span ↔ ∃ i ∈ parts, t ∈ i
  apart : parts.Pairwise Interval.Apart

theorem Tiles.reverse {span : Interval} {parts : List Interval} (h : Tiles span parts) :
    Tiles span parts.reverse := by
  refine ⟨?_, ?_⟩
  · intro t
    simp only [h.mem_iff, List.mem_reverse]
  · rw [List.pairwise_reverse]
    exact h.apart.imp fun hij hji => hij hji.symm

theorem Tiles.mem_of_mem {span part : Interval} {parts : List Interval} (h : Tiles span parts)
    (hpart : part ∈ parts) {t : Int} (ht : t ∈ part) : t ∈ span :=
  (h.mem_iff t).2 ⟨part, hpart, ht⟩

end SeriesBench.Time
