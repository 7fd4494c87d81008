import Mathlib.Data.List.ProdSigma
import SeriesBench.Fleet.Catalog
import SeriesBench.Proofs.Fleet.Hosts
import SeriesBench.Proofs.Time.Grid
import SeriesBench.Proofs.Time.Steady

set_option autoImplicit false

namespace SeriesBench
open SeriesBench.Time

structure DaySeries (h : Host) (metric : String) (day : Int) (s : Series) : Prop where
  made : metricSeries h metric day = .ok s
  table_eq : s.table = metricTable
  id_eq : s.id = seriesId cpuMeasurement h.tags metric (Date.ofDay day)
  measurement_eq : s.measurement = cpuMeasurement
  field_eq : s.field = metric
  tags_eq : s.tags = StringMap.ofList h.tags
  start_eq : s.interval.start = day * nanosPerDay
  stop_eq : s.interval.stop = (day + 1) * nanosPerDay

theorem metricSeries_eq_ok {id : Nat} {h : Host} (hdrawn : h.Drawn id) {metric : String}
    (hmetric : metric ∈ cpuMetrics) {day : Int} (hlow : -96465292 ≤ day) (hhigh : day ≤ 95026236)
    {s : Series} (hs : metricSeries h metric day = .ok s) : DaySeries h metric day s := by
  have made := hs
  obtain ⟨hmin, hmax⟩ := Date.year_bounds hlow hhigh
  rw [metricSeries, ofId_seriesId (hdrawn.separable hmetric) (Date.valid_ofDay day) hmin hmax,
    Date.toDay_ofDay] at hs
  cases hi : dayInterval? day with
  | none => simp [hi] at hs
  | some interval =>
    simp only [hi, Except.ok.injEq] at hs
    subst hs
    obtain ⟨hstart, hstop⟩ := dayInterval?_eq_some hi
    exact ⟨made, rfl, rfl, rfl, rfl, rfl, hstart, hstop⟩

/-- The id of a series gives away what the series is for. -/
theorem DaySeries.inj {h h' : Host} {metric metric' : String} {day day' : Int} {s s' : Series}
    (hs : DaySeries h metric day s) (hs' : DaySeries h' metric' day' s') (hid : s.id = s'.id) :
    s = s' ∧ h.name = h'.name ∧ metric = metric' ∧ day = day' := by
  have heq : s = s' := by
    have made := hs.made
    have made' := hs'.made
    rw [metricSeries, ← hs.id_eq, hid] at made
    rw [metricSeries, ← hs'.id_eq, made] at made'
    exact Except.ok.inj made'
  subst heq
  refine ⟨rfl, ?_, hs.field_eq.symm.trans hs'.field_eq, ?_⟩
  · have htags := hs.tags_eq.symm.trans hs'.tags_eq
    have hname := congrArg (·.get? hostnameTag) htags
    simpa only [Host.get?_hostnameTag, Option.some.injEq] using hname
  · have hstart := hs.start_eq.symm.trans hs'.start_eq
    simp only [nanosPerDay] at hstart
    omega

theorem addSeries_eq_ok_iff {h : Host} {metric : String} {count : Nat} {day : Int}
    {done out : Array Series} : addSeries h metric count day done = .ok out ↔
      ∃ added, List.Forall₂ (fun d s => metricSeries h metric d = .ok s)
        (Int.range day (day + count)) added ∧ out = done ++ added.toArray := by
  induction count generalizing day done with
  | zero =>
    rw [range_eq_nil (by omega)]
    simp [addSeries, eq_comm]
  | succ count ih =>
    have last : day + 1 + (count : Int) = day + ((count + 1 : Nat) : Int) := by omega
    rw [range_eq_cons (by omega), addSeries, bind_eq_ok_iff]
    simp only [ih, last, List.forall₂_cons_left_iff]
    constructor
    · rintro ⟨s, hs, added, hadded, rfl⟩
      exact ⟨s :: added, ⟨s, added, hs, hadded, rfl⟩, by simp⟩
    · rintro ⟨_, ⟨s, added, hs, hadded, rfl⟩, rfl⟩
      exact ⟨s, hs, added, hadded, by simp⟩

def Fleet.keys (f : Fleet) (days : List Int) : List (Host × String × Int) :=
  f.hosts ×ˢ cpuMetrics ×ˢ days

def daysBetween (start stop : Instant) : List Int :=
  Int.range (daysTouched start stop).1 ((daysTouched start stop).1 + (daysTouched start stop).2)

theorem forall₂_append_left_iff {α β : Type} {R : α → β → Prop} {xs ys : List α} {zs : List β} :
    List.Forall₂ R (xs ++ ys) zs ↔
      ∃ us vs, List.Forall₂ R xs us ∧ List.Forall₂ R ys vs ∧ zs = us ++ vs := by
  constructor
  · intro h
    refine ⟨zs.take xs.length, zs.drop xs.length, ?_, ?_, (List.take_append_drop _ _).symm⟩
    · simpa using List.forall₂_take xs.length h
    · simpa using List.forall₂_drop xs.length h
  · rintro ⟨us, vs, hus, hvs, rfl⟩
    exact List.rel_append hus hvs

theorem foldlM_addSeries_eq_ok_iff {keys : List (Host × String)} {count : Nat} {day : Int}
    {done out : Array Series} :
    keys.foldlM (fun done key => addSeries key.1 key.2 count day done) done = .ok out ↔
      ∃ added, List.Forall₂ (fun k s => metricSeries k.1 k.2.1 k.2.2 = .ok s)
        (keys.flatMap fun key => (Int.range day (day + count)).map fun d => (key.1, key.2, d))
        added ∧ out = done ++ added.toArray := by
  induction keys generalizing done with
  | nil => simp [pure, Except.pure, eq_comm]
  | cons key rest ih =>
    rw [List.foldlM_cons, bind_eq_ok_iff, List.flatMap_cons]
    simp only [ih, addSeries_eq_ok_iff, forall₂_append_left_iff, List.forall₂_map_left_iff]
    constructor
    · rintro ⟨_, ⟨first, hfirst, rfl⟩, added, hadded, rfl⟩
      exact ⟨_, ⟨first, added, hfirst, hadded, rfl⟩, by simp⟩
    · rintro ⟨_, ⟨first, added, hfirst, hadded, rfl⟩, rfl⟩
      exact ⟨_, ⟨first, hfirst, rfl⟩, added, hadded, by simp⟩

/-- A catalog lists its keys in their order, and there is one if each of them has a series. -/
theorem Fleet.catalog_eq_ok_iff {f : Fleet} {start stop : Instant} {series : List Series} :
    f.catalog start stop = .ok series ↔ start ≤ stop ∧
      List.Forall₂ (fun k s => metricSeries k.1 k.2.1 k.2.2 = .ok s)
        (f.keys (daysBetween start stop)) series := by
  have order : (f.hosts.flatMap fun h => cpuMetrics.map fun m => (h, m)).flatMap (fun key =>
      (daysBetween start stop).map fun d => (key.1, key.2, d)) = f.keys (daysBetween start stop) := by
    simp [keys, SProd.sprod, List.product, List.flatMap_assoc, List.flatMap_map, List.map_flatMap,
      Function.comp_def]
  rw [← order]
  unfold catalog daysBetween
  dsimp only
  generalize daysTouched start stop = days
  by_cases hlt : stop < start
  · have hle : ¬ start ≤ stop := fun h => Instant.not_le.2 hlt h
    simp [hlt, hle]
  · have hle : start ≤ stop := Decidable.byContradiction fun h => hlt (Instant.not_le.1 h)
    rw [if_neg hlt]
    constructor
    · intro h
      refine ⟨hle, ?_⟩
      split at h
      · rename_i out hout
        obtain ⟨added, hadded, rfl⟩ := foldlM_addSeries_eq_ok_iff.1 hout
        obtain rfl : added = series := by simpa using h
        exact hadded
      · exact absurd h (by simp)
    · rintro ⟨-, h⟩
      rw [foldlM_addSeries_eq_ok_iff.2 ⟨series, h, rfl⟩]
      simp

theorem nodup_daysBetween (start stop : Instant) : (daysBetween start stop).Nodup := by
  unfold daysBetween Int.range
  apply List.Nodup.map _ List.nodup_range
  intro a b h
  dsimp only at h
  omega

theorem bounds_of_mem_daysBetween {start stop : Instant} {day : Int}
    (h : day ∈ daysBetween start stop) : -96465292 ≤ day ∧ day ≤ 95026236 := by
  rw [daysBetween, Int.mem_range_iff] at h
  unfold daysTouched at h
  split at h
  · dsimp only at h
    omega
  · have hfirst := start.day_bounds
    have hlast := ((stop.add? (-1)).getD stop).day_bounds
    dsimp only at h
    omega

theorem mem_daysBetween_iff {start stop : Instant} (hstart : start.isLeap = false)
    (hstop : stop.isLeap = false) (horder : start < stop) (day : Int) :
    day ∈ daysBetween start stop ↔
      start.unixNanos / nanosPerDay ≤ day ∧ day * nanosPerDay < stop.unixNanos := by
  have hlt := (Instant.lt_iff_unixNanos hstart hstop).1 horder
  have hne : start ≠ stop := by
    rintro rfl
    omega
  obtain ⟨last, hadd, hlast, hnanos⟩ :=
    Instant.add?_eq_some hstop (-1) (a := start) (b := stop) (by omega) (by omega) hstop
  simp only [daysBetween, daysTouched, hne, if_false, hadd, Option.getD_some, Int.mem_range_iff]
  rw [Instant.day_eq hstart, Instant.day_eq hlast, hnanos]
  simp only [nanosPerDay]
  omega

section Generated
variable {scale : Nat} {seed : UInt64} {start stop : Instant} {series : List Series}

theorem Fleet.drawn_of_mem_keys {days : List Int} {k : Host × String × Int}
    (hk : k ∈ (generate scale seed).keys days) :
    (∃ id, k.1.Drawn id) ∧ k.2.1 ∈ cpuMetrics ∧ k.2.2 ∈ days := by
  obtain ⟨host, metric, day⟩ := k
  simp only [keys, List.mem_product] at hk
  obtain ⟨id, -, hdrawn⟩ := exists_left_of_mem (drawn_generate scale seed) hk.1
  exact ⟨⟨id, hdrawn⟩, hk.2⟩

theorem Fleet.catalog_generate (h : (generate scale seed).catalog start stop = .ok series) :
    List.Forall₂ (fun k s => DaySeries k.1 k.2.1 k.2.2 s)
      ((generate scale seed).keys (daysBetween start stop)) series := by
  have drawn : ∀ k ∈ (generate scale seed).keys (daysBetween start stop),
      (∃ id, k.1.Drawn id) ∧ k.2.1 ∈ cpuMetrics ∧ k.2.2 ∈ daysBetween start stop :=
    fun k hk => drawn_of_mem_keys hk
  refine ((List.forall₂_and_left _ _).2 ⟨drawn, (catalog_eq_ok_iff.1 h).2⟩).imp ?_
  rintro k s ⟨⟨⟨id, hdrawn⟩, hmetric, hday⟩, hs⟩
  obtain ⟨hlow, hhigh⟩ := bounds_of_mem_daysBetween hday
  exact metricSeries_eq_ok hdrawn hmetric hlow hhigh hs

theorem Fleet.fieldLabel_of_catalog
    (h : (generate scale seed).catalog start stop = .ok series) {s : Series} (hs : s ∈ series) :
    fieldLabel s.id = .ok s.field := by
  obtain ⟨k, hk, hday⟩ := exists_left_of_mem (catalog_generate h) hs
  obtain ⟨⟨id, hdrawn⟩, hmetric, -⟩ := drawn_of_mem_keys hk
  rw [hday.id_eq, fieldLabel_seriesId (hdrawn.separable hmetric), hday.field_eq]

theorem Fleet.bounds_of_catalog (h : (generate scale seed).catalog start stop = .ok series)
    (hscale : 0 < scale) {day : Int} (hday : day ∈ daysBetween start stop) :
    minTimestamp ≤ day * nanosPerDay ∧ (day + 1) * nanosPerDay ≤ maxTimestamp := by
  obtain ⟨host, hhost, -⟩ :=
    exists_right_of_mem (drawn_generate scale seed) (List.mem_range.2 hscale)
  have hkey : (host, "usage_user", day) ∈ (generate scale seed).keys (daysBetween start stop) := by
    simp only [keys, List.mem_product]
    exact ⟨hhost, by decide, hday⟩
  obtain ⟨s, -, hs⟩ := exists_right_of_mem (catalog_generate h) hkey
  rw [← hs.start_eq, ← hs.stop_eq]
  exact ⟨s.interval.min_le_start, s.interval.stop_le_max⟩

/-- There is a catalog of a range of time as long as its days are days of timestamps. -/
theorem Fleet.exists_catalog (scale : Nat) (seed : UInt64) {start stop : Instant}
    (horder : start ≤ stop)
    (hdays : ∀ day ∈ daysBetween start stop,
      minTimestamp ≤ day * nanosPerDay ∧ (day + 1) * nanosPerDay ≤ maxTimestamp) :
    ∃ series, (generate scale seed).catalog start stop = .ok series := by
  have made : ∀ k ∈ (generate scale seed).keys (daysBetween start stop),
      ∃ s, metricSeries k.1 k.2.1 k.2.2 = .ok s := by
    rintro ⟨host, metric, day⟩ hk
    obtain ⟨⟨id, hdrawn⟩, hmetric, hday⟩ := drawn_of_mem_keys hk
    obtain ⟨hlow, hhigh⟩ := bounds_of_mem_daysBetween hday
    obtain ⟨hmin, hmax⟩ := Date.year_bounds hlow hhigh
    obtain ⟨interval, hinterval⟩ := exists_dayInterval (hdays day hday).1 (hdays day hday).2
    rw [metricSeries, ofId_seriesId (hdrawn.separable hmetric) (Date.valid_ofDay day) hmin hmax,
      Date.toDay_ofDay]
    simp only [hinterval, Except.ok.injEq, exists_eq']
  obtain ⟨series, hseries⟩ := exists_forall₂ made
  exact ⟨series, catalog_eq_ok_iff.2 ⟨horder, hseries⟩⟩

end Generated

end SeriesBench
