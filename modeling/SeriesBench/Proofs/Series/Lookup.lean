import Mathlib.Algebra.BigOperators.Group.List.Lemmas
import Mathlib.Algebra.GroupWithZero.Nat
import SeriesBench.Proofs.StringMap
import SeriesBench.Series.Index

set_option autoImplicit false

namespace SeriesBench

def Series.key (s : Series) : String × String := (s.measurement, s.field)

theorem Series.key_eq_iff {s : Series} {key : String × String} :
    s.key = key ↔ s.measurement = key.1 ∧ s.field = key.2 := Prod.ext_iff

namespace Index

def group? (index : Index) (key : String × String) : Option (Array Series) :=
  (index.groups.get? key.1).bind (·.get? key.2)

def keys (index : Index) : List (String × String) :=
  index.groups.entries.flatMap fun p => p.2.keys.map (Prod.mk p.1)

theorem group?_add (index : Index) (s : Series) (key : String × String) :
    (index.add s).group? key =
      if s.key = key then some (((index.group? key).getD #[]).push s) else index.group? key := by
  obtain ⟨measurement, field⟩ := key
  unfold group? add Series.key
  rw [StringMap.get?_upsert]
  by_cases hm : s.measurement = measurement
  · subst hm
    by_cases hf : s.field = field
    · subst hf
      cases index.groups.get? s.measurement <;> simp [StringMap.get?_upsert]
    · cases index.groups.get? s.measurement <;> simp [StringMap.get?_upsert, hf]
  · rw [if_neg hm, if_neg (by simp [hm])]

theorem get?_groups_add (index : Index) (s : Series) (measurement : String) :
    ((index.add s).groups.get? measurement).isSome =
      (decide (s.measurement = measurement) || (index.groups.get? measurement).isSome) := by
  rw [add, StringMap.get?_upsert]
  by_cases hm : s.measurement = measurement <;> simp [hm]

theorem lookup_eq (index : Index) (measurement field : String) :
    index.lookup measurement field = ((index.group? (measurement, field)).getD #[]).toList := by
  unfold lookup group?
  cases (index.groups.get? measurement).bind (·.get? field) <;> rfl

@[simp] theorem lookup_empty (measurement field : String) : empty.lookup measurement field = [] := rfl

theorem lookup_add (index : Index) (s : Series) (measurement field : String) :
    (index.add s).lookup measurement field =
      if s.measurement = measurement ∧ s.field = field then index.lookup measurement field ++ [s]
      else index.lookup measurement field := by
  rw [lookup_eq, lookup_eq, group?_add]
  simp only [Series.key_eq_iff]
  by_cases h : s.measurement = measurement ∧ s.field = field <;> simp [h]

theorem lookup_foldl_add (index : Index) (series : List Series) (measurement field : String) :
    (series.foldl add index).lookup measurement field =
      index.lookup measurement field ++
        series.filter fun s => decide (s.measurement = measurement ∧ s.field = field) := by
  induction series generalizing index with
  | nil => simp
  | cons s rest ih =>
    rw [List.foldl_cons, ih, lookup_add]
    by_cases h : s.measurement = measurement ∧ s.field = field
    · simp [h]
    · simp [h]

theorem lookup_ofList (series : List Series) (measurement field : String) :
    (ofList series).lookup measurement field =
      series.filter fun s => decide (s.measurement = measurement ∧ s.field = field) := by
  rw [ofList, lookup_foldl_add, lookup_empty, List.nil_append]

theorem size_foldl_add (index : Index) (series : List Series) :
    (series.foldl add index).size = index.size + series.length := by
  induction series generalizing index with
  | nil => rfl
  | cons s rest ih =>
    have one : (index.add s).size = index.size + 1 := rfl
    rw [List.foldl_cons, ih, one, List.length_cons]
    omega

theorem isSome_group?_foldl_add (index : Index) (series : List Series) (key : String × String) :
    ((series.foldl add index).group? key).isSome = true ↔
      (index.group? key).isSome = true ∨ key ∈ series.map Series.key := by
  induction series generalizing index with
  | nil => simp
  | cons s rest ih =>
    rw [List.foldl_cons, ih, group?_add, List.map_cons, List.mem_cons]
    by_cases h : s.key = key
    · simp [h]
    · simp [h, Ne.symm h]

theorem isSome_get?_foldl_add (index : Index) (series : List Series) (measurement : String) :
    ((series.foldl add index).groups.get? measurement).isSome = true ↔
      (index.groups.get? measurement).isSome = true ∨ ∃ s ∈ series, s.measurement = measurement := by
  induction series generalizing index with
  | nil => simp
  | cons s rest ih =>
    rw [List.foldl_cons, ih, get?_groups_add, List.exists_mem_cons_iff]
    simp only [Bool.or_eq_true, decide_eq_true_eq]
    tauto

theorem mem_keys_iff {index : Index} {key : String × String} :
    key ∈ index.keys ↔ (index.group? key).isSome = true := by
  obtain ⟨measurement, field⟩ := key
  unfold keys group?
  rw [List.mem_flatMap]
  constructor
  · rintro ⟨⟨m, fields⟩, hp, hkey⟩
    obtain ⟨f, hf, heq⟩ := List.mem_map.1 hkey
    obtain ⟨rfl, rfl⟩ := Prod.mk.inj heq
    rw [StringMap.get?_of_mem hp]
    exact StringMap.mem_keys_iff.1 hf
  · intro h
    obtain ⟨group, hgroup⟩ := Option.isSome_iff_exists.1 h
    obtain ⟨fields, hfields, hfield⟩ := Option.bind_eq_some_iff.1 hgroup
    refine ⟨(measurement, fields), StringMap.mem_of_lookup hfields, ?_⟩
    apply List.mem_map_of_mem
    rw [StringMap.mem_keys_iff, hfield]
    rfl

theorem nodup_keys (index : Index) : index.keys.Nodup := by
  refine List.nodup_flatMap.2 ⟨?_, ?_⟩
  · intro p _
    exact p.2.nodup_keys.map fun _ _ h => (Prod.mk.inj h).2
  · apply index.groups.ascending.imp
    intro p q hlt key hp hq
    obtain ⟨_, -, rfl⟩ := List.mem_map.1 hp
    obtain ⟨_, -, heq⟩ := List.mem_map.1 hq
    rw [(Prod.mk.inj heq).1] at hlt
    exact String.lt_irrefl _ hlt

theorem keyCount_eq (index : Index) : index.keyCount = index.keys.length := by
  calc index.keyCount
      = (index.groups.values.map fun fields => fields.entries.length).sum := by
        rw [List.sum_eq_foldl, List.foldl_map]
        rfl
    _ = index.keys.length := by
        simp only [keys, StringMap.keys, StringMap.values, List.length_flatMap, List.length_map,
          List.map_map]
        rfl

theorem keys_ofList (series : List Series) :
    (ofList series).keys.Perm (series.map Series.key).dedup := by
  rw [List.perm_ext_iff_of_nodup (nodup_keys _) (List.nodup_dedup _)]
  intro key
  rw [List.mem_dedup, mem_keys_iff, ofList, isSome_group?_foldl_add]
  exact or_iff_right (by simp [group?, empty])

theorem length_lookup_ofList (series : List Series) (key : String × String) :
    ((ofList series).lookup key.1 key.2).length =
      (series.map Series.key).countP fun k => decide (k = key) := by
  rw [lookup_ofList, ← List.countP_eq_length_filter, List.countP_map]
  apply List.countP_congr
  intro s _
  simp [Series.key_eq_iff]

/-- The index of a list of series is a multimap: looking up a key gives the series that have it, in
the order of the list, and several fields give what each of them gives. The series, the keys and the
measurements are counted right, and the groups under all keys have as many series as the list. -/
theorem multimap_ofList (series : List Series) :
    (∀ measurement field, (ofList series).lookup measurement field =
      series.filter fun s => decide (s.measurement = measurement ∧ s.field = field)) ∧
    (∀ measurement fields, (ofList series).lookupFields measurement fields =
      fields.flatMap fun field => series.filter fun s =>
        decide (s.measurement = measurement ∧ s.field = field)) ∧
    (ofList series).size = series.length ∧
    (ofList series).keyCount = (series.map Series.key).dedup.length ∧
    (ofList series).measurements.Nodup ∧
    (∀ measurement, measurement ∈ (ofList series).measurements ↔
      ∃ s ∈ series, s.measurement = measurement) ∧
    ((series.map Series.key).dedup.map fun key =>
      ((ofList series).lookup key.1 key.2).length).sum = (ofList series).size := by
  have size : (ofList series).size = series.length := by
    rw [ofList, size_foldl_add]
    exact Nat.zero_add _
  refine ⟨lookup_ofList series, ?_, size, ?_, StringMap.nodup_keys _, ?_, ?_⟩
  · intro measurement fields
    rw [lookupFields, funext (lookup_ofList series measurement)]
  · rw [keyCount_eq, (keys_ofList series).length_eq]
  · intro measurement
    rw [measurements, StringMap.mem_keys_iff, ofList, isSome_get?_foldl_add]
    exact or_iff_right (by simp [empty])
  · simp only [length_lookup_ofList]
    have total := List.sum_map_count_dedup_eq_length (series.map Series.key)
    rw [List.length_map, ← size] at total
    exact total

end Index
end SeriesBench
