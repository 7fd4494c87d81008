import SeriesBench.Proofs.Fleet.Loading

set_option autoImplicit false

namespace SeriesBench
open SeriesBench.Time

def Touched (start stop : Instant) (day : Int) : Prop :=
  ∃ t : Instant, start ≤ t ∧ t < stop ∧ t.day = day

/-- The first day that begins at a timestamp. -/
def firstDay : Date := ⟨1677, 9, 22⟩

def lastDay : Date := ⟨2262, 4, 10⟩

def seriesOf (series : List Series) (h : Host) (metric : String) : List Series :=
  series.filter fun s => decide (s.tags = StringMap.ofList h.tags ∧ s.field = metric)

/-- What a catalog of the fleet is. Its series stand by host, then by metric and then by day. -/
structure Fleet.Tiled (f : Fleet) (start stop : Instant) (days : List Int) (series : List Series) :
    Prop where
  ascending : days.Pairwise (· < ·)
  mem_days : ∀ day, day ∈ days ↔ Touched start stop day
  listed : List.Forall₂ (fun k s => DaySeries k.1 k.2.1 k.2.2 s ∧
    ∀ key value, s.tags.get? key = some value ↔ (key, value) ∈ k.1.tags) (f.keys days) series
  nodup_ids : (series.map (·.id)).Nodup
  daily : ∀ h ∈ f.hosts, ∀ metric ∈ cpuMetrics,
    List.Forall₂ (DaySeries h metric) days (seriesOf series h metric)
  linked : ∀ h ∈ f.hosts, ∀ metric ∈ cpuMetrics,
    (seriesOf series h metric).IsChain fun s s' => s.interval.stop = s'.interval.start
  once : ∀ h ∈ f.hosts, ∀ metric ∈ cpuMetrics, ∀ t : Int, start.unixNanos ≤ t →
    t < stop.unixNanos → (seriesOf series h metric).countP (·.interval.contains t) = 1

theorem timestamps_iff (day : Int) :
    (minTimestamp ≤ day * nanosPerDay ∧ (day + 1) * nanosPerDay ≤ maxTimestamp) ↔
      firstDay.toDay ≤ day ∧ day ≤ lastDay.toDay := by
  have hfirst : firstDay.toDay = -106751 := by decide
  have hlast : lastDay.toDay = 106750 := by decide
  rw [hfirst, hlast]
  simp only [minTimestamp, maxTimestamp, nanosPerDay]
  omega

theorem Time.Instant.le_antisymm {a b : Instant} (hab : a ≤ b) (hba : b ≤ a) : a = b := by
  rw [le_iff] at hab hba
  have seconds : a.seconds = b.seconds := by omega
  have nanos : a.nanos = b.nanos := by omega
  cases a
  cases b
  simp_all

theorem pairwise_daysBetween (start stop : Instant) : (daysBetween start stop).Pairwise (· < ·) := by
  unfold daysBetween Int.range
  apply List.Pairwise.map _ _ List.pairwise_lt_range
  intro a b hab
  omega

section Days
variable {start stop : Instant}

theorem Touched.start_lt_stop {day : Int} (h : Touched start stop day) : start < stop := by
  obtain ⟨t, hlow, hhigh, -⟩ := h
  exact Instant.lt_of_le_of_lt hlow hhigh

theorem mem_daysBetween_iff_touched (hstart : start.isLeap = false) (hstop : stop.isLeap = false)
    (horder : start ≤ stop) (day : Int) : day ∈ daysBetween start stop ↔ Touched start stop day := by
  by_cases hlt : start < stop
  · rw [mem_daysBetween_iff hstart hstop hlt, ← Instant.touches_iff hstart hstop hlt]
    rfl
  · have hle : stop ≤ start := Decidable.not_not.1 fun h => hlt (Instant.not_le.1 h)
    obtain rfl := Instant.le_antisymm horder hle
    constructor
    · intro hday
      simp only [daysBetween, daysTouched, if_true, Int.mem_range_iff] at hday
      omega
    · intro hday
      exact absurd hday.start_lt_stop hlt

end Days

theorem filter_eq_singleton {α : Type} [DecidableEq α] {p : α → Bool} {xs : List α} (hxs : xs.Nodup)
    {x : α} (hx : x ∈ xs) (hp : ∀ y ∈ xs, p y = true ↔ y = x) : xs.filter p = [x] := by
  have same : xs.filter p = xs.filter (· == x) := by
    apply List.filter_congr
    intro y hy
    rw [Bool.eq_iff_iff, hp y hy, beq_iff_eq]
  rw [same, List.filter_beq, List.count_eq_one_of_mem hxs hx, List.replicate_one]

theorem Host.nodup_tagKeys (h : Host) : (h.tags.map (·.1)).Nodup := by
  change [hostnameTag, "region", "datacenter", "rack", "os", "arch", "team", "service"].Nodup
  decide

theorem Host.name_eq_of_tags {h h' : Host}
    (htags : StringMap.ofList h.tags = StringMap.ofList h'.tags) : h.name = h'.name := by
  have names := congrArg (·.get? hostnameTag) htags
  simpa only [Host.get?_hostnameTag, Option.some.injEq] using names

theorem DaySeries.linked {h : Host} {metric : String} {day : Int} {s s' : Series}
    (hs : DaySeries h metric day s) (hs' : DaySeries h metric (day + 1) s') :
    s.interval.stop = s'.interval.start := by
  rw [hs.stop_eq, hs'.start_eq]

theorem DaySeries.contains_iff {h : Host} {metric : String} {day : Int} {s : Series}
    (hs : DaySeries h metric day s) (t : Int) :
    s.interval.contains t = (day == t / nanosPerDay) := by
  rw [Bool.eq_iff_iff, Interval.contains_iff, Interval.mem_iff, hs.start_eq, hs.stop_eq,
    beq_iff_eq, mem_cell_iff (by decide)]

section Catalogued
variable {f : Fleet} {days : List Int} {series : List Series}

theorem filter_keys (hnames : (f.hosts.map (·.name)).Nodup) {h : Host} (hhost : h ∈ f.hosts)
    {metric : String} (hmetric : metric ∈ cpuMetrics) :
    (f.keys days).filter (fun k =>
        decide (StringMap.ofList k.1.tags = StringMap.ofList h.tags ∧ k.2.1 = metric)) =
      days.map fun day => (h, metric, day) := by
  have hosts : f.hosts.filter (fun x =>
      decide (StringMap.ofList x.tags = StringMap.ofList h.tags)) = [h] := by
    apply filter_eq_singleton (hnames.of_map _) hhost
    intro x hx
    rw [decide_eq_true_iff]
    constructor
    · intro htags
      exact List.inj_on_of_nodup_map hnames hx hhost (Host.name_eq_of_tags htags)
    · rintro rfl
      rfl
  have metrics : cpuMetrics.filter (fun m => decide (m = metric)) = [metric] :=
    filter_eq_singleton (by decide) hmetric fun m _ => decide_eq_true_iff
  have rest : (cpuMetrics ×ˢ days).filter (fun z => decide (z.1 = metric)) = [metric] ×ˢ days := by
    have cut := filter_product (fun m => decide (m = metric)) (fun _ => true) cpuMetrics days
    simpa only [Bool.and_true, metrics, List.filter_true] using cut
  simp only [Bool.decide_and, Fleet.keys]
  rw [filter_product (fun x : Host => decide (StringMap.ofList x.tags = StringMap.ofList h.tags))
    (fun z : String × Int => decide (z.1 = metric)), hosts, rest]
  simp only [List.product_cons, List.nil_product, List.append_nil, List.map_map]
  rfl

theorem seriesOf_daily (hnames : (f.hosts.map (·.name)).Nodup)
    (hseries : List.Forall₂ (fun k s => DaySeries k.1 k.2.1 k.2.2 s) (f.keys days) series) {h : Host}
    (hhost : h ∈ f.hosts) {metric : String} (hmetric : metric ∈ cpuMetrics) :
    List.Forall₂ (DaySeries h metric) days (seriesOf series h metric) := by
  have filtered := filter_of_forall₂ hseries
    (p := fun k => decide (StringMap.ofList k.1.tags = StringMap.ofList h.tags ∧ k.2.1 = metric))
    (q := fun s => decide (s.tags = StringMap.ofList h.tags ∧ s.field = metric))
    fun k s hs => by rw [hs.tags_eq, hs.field_eq]
  rw [filter_keys hnames hhost hmetric, List.forall₂_map_left_iff] at filtered
  exact filtered

end Catalogued

theorem countP_contains {h : Host} {metric : String} {days : List Int} {listed : List Series}
    (hlisted : List.Forall₂ (DaySeries h metric) days listed) (hdays : days.Nodup) {t : Int}
    (ht : t / nanosPerDay ∈ days) : listed.countP (·.interval.contains t) = 1 := by
  rw [countP_of_forall₂ hlisted (p := (· == t / nanosPerDay)) fun day s hs => hs.contains_iff t]
  exact List.count_eq_one_of_mem hdays ht

section Generated
variable {scale : Nat} {seed : UInt64} {start stop : Instant}

theorem Fleet.tiled_of_catalog (hstart : start.isLeap = false) (hstop : stop.isLeap = false)
    {series : List Series} (h : (generate scale seed).catalog start stop = .ok series) :
    (generate scale seed).Tiled start stop (daysBetween start stop) series := by
  have hseries := catalog_generate h
  have horder := (catalog_eq_ok_iff.1 h).1
  have daily {host : Host} (hhost : host ∈ (generate scale seed).hosts) {metric : String}
      (hmetric : metric ∈ cpuMetrics) :=
    seriesOf_daily (nodup_names scale seed) hseries hhost hmetric
  constructor
  case ascending => exact pairwise_daysBetween start stop
  case mem_days => exact mem_daysBetween_iff_touched hstart hstop horder
  case listed =>
    refine hseries.imp ?_
    intro k s hs
    refine ⟨hs, ?_⟩
    intro key value
    rw [hs.tags_eq, StringMap.get?_ofList_eq_some k.1.nodup_tagKeys]
  case nodup_ids => exact nodup_ids_of_catalog h
  case daily => exact fun host hhost metric hmetric => daily hhost hmetric
  case linked =>
    intro host hhost metric hmetric
    exact isChain_of_range (fun day s s' hs hs' => hs.linked hs') (daily hhost hmetric)
  case once =>
    intro host hhost metric hmetric t hlow hhigh
    apply countP_contains (daily hhost hmetric) (nodup_daysBetween start stop)
    rw [mem_daysBetween_iff hstart hstop
      ((Instant.lt_iff_unixNanos hstart hstop).2 (Int.lt_of_le_of_lt hlow hhigh))]
    simp only [nanosPerDay]
    omega

theorem Fleet.hosts_ne_nil_iff : (generate scale seed).hosts ≠ [] ↔ 0 < scale := by
  rw [← List.length_pos_iff, length_hosts]

theorem Fleet.catalog_of_hosts_nil (horder : start ≤ stop) (h : (generate scale seed).hosts = []) :
    (generate scale seed).catalog start stop = .ok [] := by
  refine catalog_eq_ok_iff.2 ⟨horder, ?_⟩
  rw [keys, h, List.nil_product]
  exact .nil

theorem Fleet.exists_catalog_iff (hstart : start.isLeap = false) (hstop : stop.isLeap = false) :
    (∃ series, (generate scale seed).catalog start stop = .ok series) ↔ start ≤ stop ∧
      ((generate scale seed).hosts ≠ [] → ∀ day, Touched start stop day →
        firstDay.toDay ≤ day ∧ day ≤ lastDay.toDay) := by
  constructor
  · rintro ⟨series, h⟩
    have horder := (catalog_eq_ok_iff.1 h).1
    refine ⟨horder, ?_⟩
    intro hhosts day hday
    rw [← mem_daysBetween_iff_touched hstart hstop horder] at hday
    rw [← timestamps_iff]
    exact bounds_of_catalog h (hosts_ne_nil_iff.1 hhosts) hday
  · rintro ⟨horder, hdays⟩
    by_cases hhosts : (generate scale seed).hosts = []
    · exact ⟨[], catalog_of_hosts_nil horder hhosts⟩
    · apply exists_catalog scale seed horder
      intro day hday
      rw [mem_daysBetween_iff_touched hstart hstop horder] at hday
      exact (timestamps_iff day).2 (hdays hhosts day hday)

/-- There is no catalog just when the range goes backwards or some host needs a series for a day
that does not begin and end at timestamps. -/
theorem Fleet.no_catalog_iff (hstart : start.isLeap = false) (hstop : stop.isLeap = false) :
    (∀ series, (generate scale seed).catalog start stop ≠ .ok series) ↔
      stop < start ∨ (generate scale seed).hosts ≠ [] ∧ start < stop ∧
        ∃ day, Touched start stop day ∧ (day < firstDay.toDay ∨ lastDay.toDay < day) := by
  rw [← not_exists, exists_catalog_iff hstart hstop]
  constructor
  · intro h
    by_cases horder : start ≤ stop
    · right
      have out : ¬ ((generate scale seed).hosts ≠ [] → ∀ day, Touched start stop day →
          firstDay.toDay ≤ day ∧ day ≤ lastDay.toDay) := fun hdays => h ⟨horder, hdays⟩
      push Not at out
      obtain ⟨hhosts, day, hday, hout⟩ := out
      exact ⟨hhosts, hday.start_lt_stop, day, hday, by omega⟩
    · exact .inl (Instant.not_le.1 horder)
  · rintro (hback | ⟨hhosts, -, day, hday, hout⟩) ⟨horder, hdays⟩
    · exact Instant.not_le.2 hback horder
    · have := hdays hhosts day hday
      omega

/-- A catalog fails only for lack of timestamps, and otherwise it tiles the range for each host and
metric. -/
theorem Fleet.catalog_tiles (scale : Nat) (seed : UInt64) {start stop : Instant}
    (hstart : start.isLeap = false) (hstop : stop.isLeap = false) :
    ((∀ series, (generate scale seed).catalog start stop ≠ .ok series) ↔
      stop < start ∨ (generate scale seed).hosts ≠ [] ∧ start < stop ∧
        ∃ day, Touched start stop day ∧ (day < firstDay.toDay ∨ lastDay.toDay < day)) ∧
      ∀ series, (generate scale seed).catalog start stop = .ok series →
        ∃ days, (generate scale seed).Tiled start stop days series :=
  ⟨no_catalog_iff hstart hstop, fun _ h => ⟨_, tiled_of_catalog hstart hstop h⟩⟩

end Generated

def closingStart : Instant := Timestamp.instant ⟨9223196400000000000, by decide⟩

def closingStop : Instant := Timestamp.instant ⟨9223286400000000000, by decide⟩

def beyondStop : Instant := Timestamp.instant ⟨9223286400000000001, by decide⟩

/-- Two hosts have series for two days, and a nanosecond more would need a third day. -/
theorem closingDays_tiled :
    closingStart.isLeap = false ∧ closingStop.isLeap = false ∧ beyondStop.isLeap = false ∧
    (∃ series days, (Fleet.generate 2 7).catalog closingStart closingStop = .ok series ∧
      (Fleet.generate 2 7).Tiled closingStart closingStop days series ∧
      ∀ day, day ∈ days ↔ day = lastDay.toDay - 1 ∨ day = lastDay.toDay) ∧
    ∀ series, (Fleet.generate 2 7).catalog closingStart beyondStop ≠ .ok series := by
  obtain ⟨series, hcatalog⟩ : ∃ series,
      (Fleet.generate 2 7).catalog closingStart closingStop = .ok series :=
    Fleet.exists_catalog 2 7 (by decide) (by decide)
  obtain ⟨days, htiled⟩ := (Fleet.catalog_tiles 2 7 rfl rfl).2 series hcatalog
  refine ⟨rfl, rfl, rfl, ⟨series, days, hcatalog, htiled, ?_⟩, ?_⟩
  · intro day
    have hnanos : closingStart.unixNanos / nanosPerDay = lastDay.toDay - 1 := by decide
    have hstop : closingStop.unixNanos = (lastDay.toDay + 1) * nanosPerDay := by decide
    rw [htiled.mem_days, Touched, Instant.touches_iff rfl rfl (by decide), hnanos, hstop]
    simp only [nanosPerDay]
    omega
  · apply (Fleet.catalog_tiles 2 7 rfl rfl).1.2
    refine .inr ⟨Fleet.hosts_ne_nil_iff.2 (by decide), by decide, closingStop.day, ?_, ?_⟩
    · exact ⟨closingStop, by decide, by decide, rfl⟩
    · exact .inr (by decide)

end SeriesBench
