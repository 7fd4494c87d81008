set_option autoImplicit false

namespace SeriesBench

structure StringMap (α : Type) where
  entries : List (String × α)
  ascending : entries.Pairwise fun p q => p.1 < q.1
deriving DecidableEq

namespace StringMap
variable {α β : Type}

def empty : StringMap α := ⟨[], .nil⟩

instance : Inhabited (StringMap α) := ⟨empty⟩

def lookup (key : String) : List (String × α) → Option α
  | [] => none
  | (k, v) :: rest => if k = key then some v else lookup key rest

def get? (m : StringMap α) (key : String) : Option α := lookup key m.entries

def contains (m : StringMap α) (key : String) : Bool := (m.get? key).isSome

def place (key : String) (f : Option α → α) : List (String × α) → List (String × α)
  | [] => [(key, f none)]
  | (k, v) :: rest =>
    if key = k then (k, f (some v)) :: rest
    else if key < k then (key, f none) :: (k, v) :: rest
    else (k, v) :: place key f rest

theorem key_of_mem_place {key : String} {f : Option α → α} {entries : List (String × α)}
    {p : String × α} (h : p ∈ place key f entries) : p.1 = key ∨ p.1 ∈ entries.map (·.1) := by
  induction entries with
  | nil => simp_all [place]
  | cons q rest ih =>
    simp only [place] at h
    split at h
    · rcases List.mem_cons.1 h with rfl | h
      · simp
      · exact .inr (by simpa using .inr ⟨p.2, h⟩)
    · split at h
      · rcases List.mem_cons.1 h with rfl | h
        · simp
        · exact .inr (List.mem_map_of_mem h)
      · rcases List.mem_cons.1 h with rfl | h
        · simp
        · rcases ih h with h | h
          · exact .inl h
          · exact .inr (by simp only [List.map_cons, List.mem_cons]; exact .inr h)

theorem ascending_place {key : String} {f : Option α → α} {entries : List (String × α)}
    (h : entries.Pairwise fun p q => p.1 < q.1) :
    (place key f entries).Pairwise fun p q => p.1 < q.1 := by
  induction entries with
  | nil => simp [place]
  | cons q rest ih =>
    have ⟨hq, hrest⟩ := List.pairwise_cons.1 h
    simp only [place]
    split
    · exact List.pairwise_cons.2 ⟨hq, hrest⟩
    · split
      · rename_i hlt
        refine List.pairwise_cons.2 ⟨fun p hp => ?_, h⟩
        rcases List.mem_cons.1 hp with rfl | hp
        · exact hlt
        · exact String.lt_trans hlt (hq p hp)
      · rename_i hne hnlt
        refine List.pairwise_cons.2 ⟨fun p hp => ?_, ih hrest⟩
        rcases key_of_mem_place hp with hk | hk
        · rw [hk]
          refine Decidable.byContradiction fun hge => hne ?_
          exact String.le_antisymm (String.not_lt.1 hge) (String.not_lt.1 hnlt)
        · obtain ⟨r, hr, hrp⟩ := List.mem_map.1 hk
          exact hrp ▸ hq r hr

/-- Replaces the value at `key` by `f` of what is there, which is `none` for a new key. -/
def upsert (m : StringMap α) (key : String) (f : Option α → α) : StringMap α :=
  ⟨place key f m.entries, ascending_place m.ascending⟩

def insert (m : StringMap α) (key : String) (value : α) : StringMap α :=
  m.upsert key fun _ => value

/-- Of two pairs with one key the later one counts. -/
def ofList (pairs : List (String × α)) : StringMap α :=
  pairs.foldl (fun m p => m.insert p.1 p.2) empty

def toList (m : StringMap α) : List (String × α) := m.entries

def keys (m : StringMap α) : List String := m.entries.map (·.1)

def values (m : StringMap α) : List α := m.entries.map (·.2)

def mapValues (f : α → β) (m : StringMap α) : StringMap β :=
  ⟨m.entries.map fun p => (p.1, f p.2), m.ascending.map _ fun _ _ h => h⟩

theorem lookup_eq_none {key : String} {entries : List (String × α)}
    (h : ∀ p ∈ entries, key < p.1) : lookup key entries = none := by
  induction entries with
  | nil => rfl
  | cons q rest ih =>
    have hq : ¬ q.1 = key := fun e => String.lt_irrefl key (e ▸ h q (by simp))
    simp only [lookup, hq, if_false]
    exact ih fun p hp => h p (by simp [hp])

theorem lookup_place {entries : List (String × α)} (h : entries.Pairwise fun p q => p.1 < q.1)
    (key key' : String) (f : Option α → α) :
    lookup key' (place key f entries) =
      if key = key' then some (f (lookup key entries)) else lookup key' entries := by
  induction entries with
  | nil => simp [place, lookup]
  | cons q rest ih =>
    obtain ⟨k, v⟩ := q
    have ⟨hq, hrest⟩ := List.pairwise_cons.1 h
    simp only [place]
    split
    · subst_vars
      simp only [lookup]
      split <;> simp_all
    · rename_i hne
      split
      · rename_i hlt
        have hnone : lookup key ((k, v) :: rest) = none :=
          lookup_eq_none fun p hp => by
            rcases List.mem_cons.1 hp with rfl | hp
            · exact hlt
            · exact String.lt_trans hlt (hq p hp)
        rw [hnone]
        simp [lookup]
      · simp only [lookup, ih hrest, Ne.symm hne, if_false]
        split
        · rename_i hk
          have : ¬ key = key' := fun e => hne (e.trans hk.symm)
          simp [this]
        · rfl

@[simp] theorem get?_empty (key : String) : (empty : StringMap α).get? key = none := rfl

theorem get?_upsert (m : StringMap α) (key key' : String) (f : Option α → α) :
    (m.upsert key f).get? key' = if key = key' then some (f (m.get? key)) else m.get? key' :=
  lookup_place m.ascending key key' f

@[simp] theorem get?_insert (m : StringMap α) (key key' : String) (value : α) :
    (m.insert key value).get? key' = if key = key' then some value else m.get? key' :=
  get?_upsert m key key' _

theorem lookup_mapValues (f : α → β) (key : String) (entries : List (String × α)) :
    lookup key (entries.map fun p => (p.1, f p.2)) = (lookup key entries).map f := by
  induction entries with
  | nil => rfl
  | cons q rest ih =>
    simp only [List.map_cons, lookup, ih]
    split <;> rfl

@[simp] theorem get?_mapValues (f : α → β) (m : StringMap α) (key : String) :
    (m.mapValues f).get? key = (m.get? key).map f :=
  lookup_mapValues f key m.entries

end StringMap
end SeriesBench
