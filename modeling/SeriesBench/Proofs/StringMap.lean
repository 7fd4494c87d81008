import Mathlib.Data.List.Nodup
import SeriesBench.StringMap

set_option autoImplicit false

namespace SeriesBench.StringMap
variable {α : Type}

theorem get?_foldl_insert (m : StringMap α) (pairs : List (String × α)) (key : String) :
    (pairs.foldl (fun m p => m.insert p.1 p.2) m).get? key =
      (((pairs.reverse.find? fun p => p.1 == key).map (·.2)).or (m.get? key)) := by
  induction pairs generalizing m with
  | nil => simp
  | cons p rest ih =>
    rw [List.foldl_cons, ih, List.reverse_cons, List.find?_append, get?_insert]
    by_cases h : p.1 = key
    · cases rest.reverse.find? fun p => p.1 == key <;> simp [h]
    · cases rest.reverse.find? fun p => p.1 == key <;> simp [h]

theorem get?_ofList (pairs : List (String × α)) (key : String) :
    (ofList pairs).get? key = (pairs.reverse.find? fun p => p.1 == key).map (·.2) := by
  rw [ofList, get?_foldl_insert, get?_empty, Option.or_none]

theorem get?_of_mem {m : StringMap α} {key : String} {value : α} (h : (key, value) ∈ m.entries) :
    m.get? key = some value := by
  obtain ⟨entries, ascending⟩ := m
  change lookup key entries = some value
  induction entries with
  | nil => exact absurd h (by simp)
  | cons p rest ih =>
    rw [List.pairwise_cons] at ascending
    cases h with
    | head => rw [lookup, if_pos rfl]
    | tail _ hrest =>
      have hne : p.1 ≠ key := by
        rintro rfl
        exact absurd (ascending.1 _ hrest) (String.lt_irrefl _)
      rw [lookup, if_neg hne]
      exact ih ascending.2 hrest

theorem mem_of_lookup {key : String} {value : α} {entries : List (String × α)}
    (h : lookup key entries = some value) : (key, value) ∈ entries := by
  induction entries with
  | nil => exact absurd h (by simp [lookup])
  | cons p rest ih =>
    rw [lookup] at h
    split at h
    · rename_i hkey
      obtain rfl := Option.some.inj h
      obtain rfl := hkey
      exact List.mem_cons_self
    · exact List.mem_cons_of_mem p (ih h)

theorem mem_keys_iff {m : StringMap α} {key : String} :
    key ∈ m.keys ↔ (m.get? key).isSome = true := by
  rw [keys, List.mem_map, Option.isSome_iff_exists]
  constructor
  · rintro ⟨p, hp, rfl⟩
    exact ⟨p.2, get?_of_mem hp⟩
  · rintro ⟨value, h⟩
    exact ⟨(key, value), mem_of_lookup h, rfl⟩

theorem nodup_keys (m : StringMap α) : m.keys.Nodup := by
  apply List.pairwise_map.2
  apply m.ascending.imp
  intro p q hlt heq
  rw [heq] at hlt
  exact String.lt_irrefl _ hlt

theorem get?_ofList_eq_some {pairs : List (String × α)} (hkeys : (pairs.map (·.1)).Nodup)
    {key : String} {value : α} : (ofList pairs).get? key = some value ↔ (key, value) ∈ pairs := by
  rw [get?_ofList, Option.map_eq_some_iff]
  constructor
  · rintro ⟨p, hp, rfl⟩
    have hmem := List.mem_reverse.1 (List.mem_of_find?_eq_some hp)
    have hkey : p.1 = key := by simpa using List.find?_some hp
    rw [← hkey]
    exact hmem
  · intro hmem
    have found : (pairs.reverse.find? fun p => p.1 == key).isSome = true :=
      List.find?_isSome.2 ⟨(key, value), List.mem_reverse.2 hmem, by simp⟩
    obtain ⟨p, hp⟩ := Option.isSome_iff_exists.1 found
    have hpairs := List.mem_reverse.1 (List.mem_of_find?_eq_some hp)
    have hkey : p.1 = key := by simpa using List.find?_some hp
    refine ⟨p, hp, ?_⟩
    rw [List.inj_on_of_nodup_map hkeys hpairs hmem hkey]

end SeriesBench.StringMap
