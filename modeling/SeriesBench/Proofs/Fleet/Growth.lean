import Mathlib.Data.List.Flatten
import Mathlib.Data.List.Sort
import SeriesBench.Proofs.Fleet.Tiling
import SeriesBench.Proofs.Time.LeapSeconds

set_option autoImplicit false

namespace SeriesBench
open SeriesBench.Time SeriesBench.Random

/-- Whether all times of a range are in another one. -/
def Time.Instant.Within (start stop start' stop' : Instant) : Prop :=
  ∀ t : Instant, start ≤ t → t < stop → start' ≤ t ∧ t < stop'

section Ranges
variable {start stop start' stop' : Instant}

theorem Time.Instant.le_of_lt {a b : Instant} (h : a < b) : a ≤ b := by
  rw [lt_iff] at h
  rw [le_iff]
  omega

theorem Time.Instant.within_iff (horder : start < stop) :
    Instant.Within start stop start' stop' ↔ start' ≤ start ∧ stop ≤ stop' := by
  constructor
  · intro h
    have self : start ≤ start := Instant.le_iff.2 (.inr ⟨rfl, Nat.le_refl _⟩)
    obtain ⟨hfirst, hlast⟩ := h start self horder
    refine ⟨hfirst, ?_⟩
    by_contra hstop
    have inside := h stop' (Instant.le_of_lt hlast) (Instant.not_le.1 hstop)
    have none := Instant.lt_iff.1 inside.2
    omega
  · rintro ⟨hfirst, hlast⟩ t hlow hhigh
    rw [Instant.le_iff] at hfirst hlast hlow ⊢
    rw [Instant.lt_iff] at hhigh ⊢
    omega

theorem daysBetween_self (t : Instant) : daysBetween t t = [] := by
  rw [daysBetween, daysTouched, if_pos rfl]
  exact range_eq_nil (by simp)

theorem mem_daysBetween_of_lt (horder : start < stop) (day : Int) : day ∈ daysBetween start stop ↔
    start.day ≤ day ∧ day ≤ ((stop.add? (-1)).getD stop).day := by
  have hne : start ≠ stop := by
    rintro rfl
    have none := Instant.lt_iff.1 horder
    omega
  rw [daysBetween, Int.mem_range_iff, daysTouched, if_neg hne]
  dsimp only
  omega

theorem daysBetween_sublist (h : Instant.Within start stop start' stop') (horder : start ≤ stop) :
    (daysBetween start stop).Sublist (daysBetween start' stop') := by
  by_cases hlt : start < stop
  · obtain ⟨hfirst, hlast⟩ := (Instant.within_iff hlt).1 h
    have horder' : start' < stop' := by
      rw [Instant.le_iff] at hfirst hlast
      rw [Instant.lt_iff] at hlt ⊢
      omega
    have subset : daysBetween start stop ⊆ daysBetween start' stop' := by
      intro day hday
      rw [mem_daysBetween_of_lt hlt] at hday
      rw [mem_daysBetween_of_lt horder']
      have first : start'.day ≤ start.day := by
        rw [Instant.le_iff] at hfirst
        simp only [Instant.day, secondsPerDay]
        omega
      have last := Instant.day_before_le hlast
      omega
    have ascending (a b : Instant) : (daysBetween a b).Pairwise (· ≤ ·) :=
      (pairwise_daysBetween a b).imp Int.le_of_lt
    exact List.sublist_of_subperm_of_pairwise
      (List.subperm_of_subset (nodup_daysBetween start stop) subset)
      (ascending start stop) (ascending start' stop')
  · have hle : stop ≤ start := Decidable.not_not.1 fun h => hlt (Instant.not_le.1 h)
    obtain rfl := Instant.le_antisymm horder hle
    rw [daysBetween_self]
    exact List.nil_sublist _

end Ranges

theorem product_sublist {α β : Type} {xs xs' : List α} {ys ys' : List β} (hx : xs.Sublist xs')
    (hy : ys.Sublist ys') : (xs ×ˢ ys).Sublist (xs' ×ˢ ys') :=
  (hx.flatMap _).trans (.flatMap_right xs' fun _ _ => hy.map _)

namespace Fleet
variable {n m : Nat} {seed : UInt64} {start stop start' stop' : Instant}

theorem keys_sublist {f f' : Fleet} {days days' : List Int} (hhosts : f.hosts.Sublist f'.hosts)
    (hdays : days.Sublist days') : (f.keys days).Sublist (f'.keys days') :=
  product_sublist hhosts (product_sublist (List.Sublist.refl _) hdays)

theorem hosts_eq_take (h : n ≤ m) (seed : UInt64) :
    (generate n seed).hosts = (generate m seed).hosts.take n := by
  have front : List.range n <+: List.range m := by
    have taken : List.range n = (List.range m).take n := by rw [List.take_range, Nat.min_eq_left h]
    rw [taken]
    exact List.take_prefix _ _
  have hosts : (generate n seed).hosts <+: (generate m seed).hosts := prefix_run_mapM front _
  have taken := List.prefix_iff_eq_take.1 hosts
  rwa [length_hosts] at taken

theorem exists_sublist_catalog (hscale : n ≤ m) (hrange : Instant.Within start stop start' stop')
    (horder : start ≤ stop) {larger : List Series}
    (hlarger : (generate m seed).catalog start' stop' = .ok larger) :
    ∃ smaller, (generate n seed).catalog start stop = .ok smaller ∧ smaller.Sublist larger := by
  have keys : ((generate n seed).keys (daysBetween start stop)).Sublist
      ((generate m seed).keys (daysBetween start' stop')) := by
    refine keys_sublist ?_ (daysBetween_sublist hrange horder)
    rw [hosts_eq_take hscale]
    exact List.take_sublist _ _
  obtain ⟨smaller, hsub, hmade⟩ := exists_sublist_of_forall₂ keys (catalog_eq_ok_iff.1 hlarger).2
  exact ⟨smaller, catalog_eq_ok_iff.2 ⟨horder, hmade⟩, hsub⟩

theorem length_of_catalog {series : List Series}
    (h : (generate n seed).catalog start stop = .ok series) :
    series.length = n * cpuMetrics.length * (daysBetween start stop).length := by
  rw [← (catalog_eq_ok_iff.1 h).2.length_eq, keys, List.length_product, List.length_product,
    length_hosts, Nat.mul_assoc]

/-- A larger fleet of the same seed begins with the hosts of a smaller one. If it has a catalog for
a range of time, the smaller fleet has one for each range within, and all its series stand in the
larger catalog in the same order. -/
theorem growth_keeps_series (hscale : n ≤ m) (seed : UInt64)
    (hrange : Instant.Within start stop start' stop') :
    (generate n seed).hosts.length = n ∧
      (generate n seed).hosts = (generate m seed).hosts.take n ∧
      ∀ larger, (generate m seed).catalog start' stop' = .ok larger →
        (start ≤ stop → ∃ smaller, (generate n seed).catalog start stop = .ok smaller) ∧
        ∀ smaller, (generate n seed).catalog start stop = .ok smaller →
          smaller.Sublist larger := by
  refine ⟨length_hosts n seed, hosts_eq_take hscale seed, ?_⟩
  intro larger hlarger
  constructor
  · intro horder
    obtain ⟨smaller, hsmaller, -⟩ := exists_sublist_catalog hscale hrange horder hlarger
    exact ⟨smaller, hsmaller⟩
  · intro smaller hsmaller
    obtain ⟨listed, hlisted, hsub⟩ :=
      exists_sublist_catalog hscale hrange (catalog_eq_ok_iff.1 hsmaller).1 hlarger
    obtain rfl := Except.ok.inj (hlisted.symm.trans hsmaller)
    exact hsub

/-- A quarter of a second into the leap second in the middle of 2015. -/
def inLeapSecond : Instant := ⟨1435708799, 1250000000, by decide, by decide, by decide⟩

def afterLeapSecond : Instant := Timestamp.instant ⟨1435708800000000000, by decide⟩

def nextDay : Instant := Timestamp.instant ⟨1435708800000000001, by decide⟩

/-- The rest of a leap second needs the series of one day, and those of the next day come between
them once the range goes on. -/
theorem growth_over_leap_second :
    1 ≤ 2 ∧ Instant.Within inLeapSecond afterLeapSecond inLeapSecond nextDay ∧
      ∃ smaller larger, (generate 1 7).catalog inLeapSecond afterLeapSecond = .ok smaller ∧
        (generate 2 7).catalog inLeapSecond nextDay = .ok larger ∧
        smaller.length = 10 ∧ larger.length = 40 ∧ smaller.Sublist larger := by
  have within : Instant.Within inLeapSecond afterLeapSecond inLeapSecond nextDay :=
    (Instant.within_iff (by decide)).2 ⟨by decide, by decide⟩
  obtain ⟨larger, hlarger⟩ : ∃ larger, (generate 2 7).catalog inLeapSecond nextDay = .ok larger :=
    exists_catalog 2 7 (by decide) (by decide)
  obtain ⟨-, -, kept⟩ := growth_keeps_series (n := 1) (m := 2) (by decide) 7 within
  obtain ⟨exists_smaller, sublist⟩ := kept larger hlarger
  obtain ⟨smaller, hsmaller⟩ := exists_smaller (by decide)
  refine ⟨by decide, within, smaller, larger, hsmaller, hlarger, ?_, ?_, sublist smaller hsmaller⟩
  · rw [length_of_catalog hsmaller]
    decide
  · rw [length_of_catalog hlarger]
    decide

end Fleet
end SeriesBench
