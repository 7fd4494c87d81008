import SeriesBench.Proofs.Fleet.Catalog
import SeriesBench.Proofs.Plan.Scan

set_option autoImplicit false

namespace SeriesBench
open SeriesBench.Time

def Time.Interval.touches (i : Interval) (day : Int) : Bool :=
  decide (i.start < i.stop ∧ i.start / nanosPerDay ≤ day ∧ day * nanosPerDay < i.stop)

theorem DaySeries.meets_iff {h : Host} {metric : String} {day : Int} {s : Series}
    (hs : DaySeries h metric day s) (i : Interval) :
    s.interval.Meets i ↔ i.touches day = true := by
  unfold Interval.touches
  rw [decide_eq_true_iff, ← Interval.overlaps_iff, Interval.overlaps, decide_eq_true_iff,
    hs.start_eq, hs.stop_eq]
  simp only [nanosPerDay]
  omega

theorem filter_product {α β : Type} (p : α → Bool) (q : β → Bool) (xs : List α) (ys : List β) :
    (xs ×ˢ ys).filter (fun z => p z.1 && q z.2) = xs.filter p ×ˢ ys.filter q := by
  induction xs with
  | nil => rfl
  | cons x xs ih =>
    rw [List.product_cons, List.filter_append, ih, List.filter_map, List.filter_cons]
    cases hp : p x
    · simp [Function.comp_def, hp]
    · simp [Function.comp_def, hp, List.product_cons]

theorem countP_product {α β : Type} (p : α → Bool) (q : β → Bool) (xs : List α) (ys : List β) :
    (xs ×ˢ ys).countP (fun z => p z.1 && q z.2) = xs.countP p * ys.countP q := by
  simp only [List.countP_eq_length_filter, filter_product, List.length_product]

theorem map_product {α β γ : Type} (f : α → γ) (xs : List α) (ys : List β) :
    (xs ×ˢ ys).map (fun z => (f z.1, z.2)) = xs.map f ×ˢ ys := by
  induction xs with
  | nil => rfl
  | cons x xs ih =>
    rw [List.map_cons, List.product_cons, List.product_cons, List.map_append, ih, List.map_map]
    rfl

section Catalogued
variable {f : Fleet} {days : List Int} {series : List Series} {s : Selection}

theorem countP_field (hseries : List.Forall₂ (fun k x => DaySeries k.1 k.2.1 k.2.2 x)
      (f.keys days) series) (hm : s.measurement = cpuMeasurement) {field : String}
    (hfield : field ∈ cpuMetrics) (i : Interval) :
    series.countP (fun x => decide (x.measurement = s.measurement ∧ x.field = field ∧
        s.filter.accepts x.tags = true ∧ x.interval.Meets i)) =
      f.hosts.countP (fun h => s.filter.accepts (StringMap.ofList h.tags)) *
        days.countP i.touches := by
  have keys : series.countP (fun x => decide (x.measurement = s.measurement ∧ x.field = field ∧
        s.filter.accepts x.tags = true ∧ x.interval.Meets i)) =
      (f.keys days).countP fun k => s.filter.accepts (StringMap.ofList k.1.tags) &&
        (k.2.1 == field && i.touches k.2.2) := by
    apply countP_of_forall₂ hseries
    rintro ⟨h, metric, day⟩ x hx
    rw [Bool.eq_iff_iff]
    simp only [decide_eq_true_eq, Bool.and_eq_true, beq_iff_eq, hx.meets_iff, hx.tags_eq,
      hx.field_eq, hx.measurement_eq, hm, true_and]
    exact and_left_comm
  have once : cpuMetrics.countP (· == field) = 1 :=
    List.count_eq_one_of_mem (by decide) hfield
  rw [keys, Fleet.keys, countP_product (fun h : Host => s.filter.accepts (StringMap.ofList h.tags))
    (fun z : String × Int => z.1 == field && i.touches z.2), countP_product (· == field), once,
    Nat.one_mul]

theorem length_scan (hseries : List.Forall₂ (fun k x => DaySeries k.1 k.2.1 k.2.2 x)
      (f.keys days) series) (hm : s.measurement = cpuMeasurement)
    (hfields : ∀ field ∈ s.fields, field ∈ cpuMetrics) (i : Interval) :
    (scan series s i).length = s.fields.length *
      (f.hosts.countP (fun h => s.filter.accepts (StringMap.ofList h.tags)) *
        days.countP i.touches) := by
  unfold scan
  generalize s.fields = fields at hfields
  induction fields with
  | nil => simp
  | cons field rest ih =>
    have ih := ih fun m hm => hfields m (by simp [hm])
    rw [List.flatMap_cons, List.length_append, ih, ← List.countP_eq_length_filter,
      countP_field hseries hm (hfields field (by simp)), List.length_cons, Nat.add_mul, Nat.one_mul,
      Nat.add_comm]

theorem nodup_ids (hnames : (f.hosts.map (·.name)).Nodup) (hdays : days.Nodup)
    (hseries : List.Forall₂ (fun k x => DaySeries k.1 k.2.1 k.2.2 x) (f.keys days) series) :
    (series.map (·.id)).Nodup := by
  apply nodup_map_of_forall₂ hseries (f := fun k => (k.1.name, k.2))
  · rw [Fleet.keys, map_product]
    exact hnames.product ((by decide : cpuMetrics.Nodup).product hdays)
  · rintro ⟨h, metric, day⟩ ⟨h', metric', day'⟩ x x' hx hx' hid
    obtain ⟨-, hname, hmetric, hday⟩ := hx.inj hx' hid
    exact Prod.ext hname (Prod.ext hmetric hday)

end Catalogued

theorem nodup_scan {series : List Series} {s : Selection} (hids : (series.map (·.id)).Nodup)
    (hfields : s.fields.Nodup) (i : Interval) : ((scan series s i).map (·.id)).Nodup := by
  rw [scan, List.map_flatMap, List.nodup_flatMap]
  refine ⟨?_, ?_⟩
  · intro field _
    exact hids.sublist (List.filter_sublist.map _)
  · refine hfields.imp ?_
    intro field field' hne
    apply List.disjoint_left.2
    intro id hid hid'
    obtain ⟨x, hx, rfl⟩ := List.mem_map.1 hid
    obtain ⟨x', hx', heq⟩ := List.mem_map.1 hid'
    rw [List.mem_filter, decide_eq_true_iff] at hx hx'
    obtain rfl := List.inj_on_of_nodup_map hids hx'.1 hx.1 heq
    exact hne (hx.2.2.1.symm.trans hx'.2.2.1)

end SeriesBench
