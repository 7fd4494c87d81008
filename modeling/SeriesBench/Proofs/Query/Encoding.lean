import SeriesBench.Proofs.Json.Values
import SeriesBench.Proofs.Time.DurationText
import SeriesBench.Proofs.Time.InstantText
import SeriesBench.Query.Encoding

set_option autoImplicit false

namespace SeriesBench
open SeriesBench.Time SeriesBench.Text

namespace Json

theorem string?_ofString (s : String) : (ofString s).string? = some s := stringOfUnits?_toNat s

theorem word?_ofNat (n : UInt64) : (ofNat n.toNat).word? = some n := by
  have small : n.toNat ≤ UInt64.size - 1 := by
    have := n.toNat_lt_size
    omega
  simp only [ofNat, word?, readNat_digits small, Except.toOption, Option.map_some,
    UInt64.ofNat_toNat]

theorem mapM_map {α β γ : Type} {f : α → β} {g : β → Option γ} {k : α → γ}
    (h : ∀ a, g (f a) = some (k a)) (xs : List α) : (xs.map f).mapM g = some (xs.map k) := by
  induction xs with
  | nil => rfl
  | cons x xs ih => simp [h, ih]

theorem mapM_map_eq_some {α β : Type} {f : α → β} {g : β → Option α} (h : ∀ a, g (f a) = some a)
    (xs : List α) : (xs.map f).mapM g = some xs := by
  have whole : (xs.map f).mapM g = some (xs.map id) := mapM_map h xs
  rwa [List.map_id] at whole

theorem list?_map {α : Type} {item? : Json → Option α} {f : α → Json}
    (h : ∀ a, item? (f a) = some a) (xs : List α) : list? item? (.array (xs.map f)) = some xs :=
  mapM_map_eq_some h xs

theorem WellFormed.array_map {α : Type} {f : α → Json} (h : ∀ a, (f a).WellFormed) (xs : List α) :
    (Json.array (xs.map f)).WellFormed := by
  apply WellFormed.array
  intro v hv
  obtain ⟨a, -, rfl⟩ := List.mem_map.1 hv
  exact h a

end Json

namespace Query
open SeriesBench.Json

def onClock (q : Query) : Query :=
  { q with timeStart := q.timeStart.onClock, timeEnd := q.timeEnd.onClock }

theorem onClock_eq_self_iff {q : Query} :
    q.onClock = q ↔ q.timeStart.LeapEndsMinute ∧ q.timeEnd.LeapEndsMinute := by
  rw [← Instant.onClock_eq_self_iff, ← Instant.onClock_eq_self_iff]
  constructor
  · intro h
    exact ⟨congrArg timeStart h, congrArg timeEnd h⟩
  · rintro ⟨hstart, hend⟩
    rw [onClock, hstart, hend]

theorem instant?_ofString (t : Instant) : instant? (.ofString t.zuluText) = some t.onClock := by
  rw [instant?, string?_ofString, Option.bind_some, t.read?_zuluText]

theorem duration?_ofString (d : Duration) : duration? (.ofString d.text) = some d := by
  simp only [duration?, string?_ofString, Option.bind_some, Duration.text, String.toList_ofList,
    d.readChars_textChars, Except.toOption]

theorem wellFormed_members (q : Query) : ∀ m ∈ q.members, m.2.WellFormed := by
  simp only [members, List.forall_mem_cons, List.not_mem_nil, false_implies, implies_true,
    wellFormed_ofString, wellFormed_ofNat, and_true, true_and]
  constructor
  · exact .array_map (WellFormed.array_map wellFormed_ofString) q.tagSets
  · cases q.limit with
    | none => exact .null
    | some n => exact wellFormed_ofNat n.toNat

theorem wellFormed_json (q : Query) : q.json.WellFormed := by
  apply WellFormed.object
  · intro m hm u hu
    obtain ⟨named, -, rfl⟩ := List.mem_map.1 hm
    obtain ⟨c, -, rfl⟩ := List.mem_map.1 hu
    exact isUnit_toNat c
  · intro m hm
    obtain ⟨named, hnamed, rfl⟩ := List.mem_map.1 hm
    exact q.wellFormed_members named hnamed

theorem given?_json (q : Query) : given? q.json = some q.members := by
  apply mapM_map_eq_some
  rintro ⟨name, v⟩
  simp [stringOfUnits?_toNat]

theorem limit?_ofLimit (limit : Option UInt64) :
    limit? (match limit with
      | none => .null
      | some n => .ofNat n.toNat) = some limit := by
  cases limit with
  | none => rfl
  | some n => exact congrArg (Option.map some) (word?_ofNat n)

section
variable {α : Type} {read? : Json → Option α} {name : String} {v : Json}
  {given : List (String × Json)}

theorem member?_bind (h : (given.filter fun m => m.1 == name) = [(name, v)]) :
    (member? name given).bind read? = read? v := by
  rw [member?, h, Option.bind_some]

theorem optionalMember?_eq {absent : α} (h : (given.filter fun m => m.1 == name) = [(name, v)]) :
    optionalMember? read? absent name given = read? v := by
  rw [optionalMember?, h]

end

theorem ofJson?_json (q : Query) : ofJson? q.json = some q.onClock := by
  have tagSets : list? (list? string?) (.array (q.tagSets.map ofStrings)) = some q.tagSets :=
    list?_map (list?_map string?_ofString) q.tagSets
  refine Option.bind_eq_some_iff.2 ⟨_, q.given?_json, ?_⟩
  refine Option.bind_eq_some_iff.2 ⟨_, (optionalMember?_eq rfl).trans (word?_ofNat _), ?_⟩
  refine Option.bind_eq_some_iff.2 ⟨_, (optionalMember?_eq rfl).trans (string?_ofString _), ?_⟩
  refine Option.bind_eq_some_iff.2 ⟨_, (optionalMember?_eq rfl).trans (string?_ofString _), ?_⟩
  refine Option.bind_eq_some_iff.2 ⟨_, (member?_bind rfl).trans (string?_ofString _), ?_⟩
  refine Option.bind_eq_some_iff.2 ⟨_, (member?_bind rfl).trans (string?_ofString _), ?_⟩
  refine Option.bind_eq_some_iff.2 ⟨_, (optionalMember?_eq rfl).trans (string?_ofString _), ?_⟩
  refine Option.bind_eq_some_iff.2 ⟨_, (member?_bind rfl).trans (instant?_ofString _), ?_⟩
  refine Option.bind_eq_some_iff.2 ⟨_, (member?_bind rfl).trans (instant?_ofString _), ?_⟩
  refine Option.bind_eq_some_iff.2 ⟨_, (optionalMember?_eq rfl).trans (duration?_ofString _), ?_⟩
  refine Option.bind_eq_some_iff.2 ⟨_, (optionalMember?_eq rfl).trans tagSets, ?_⟩
  refine Option.bind_eq_some_iff.2 ⟨_, (optionalMember?_eq rfl).trans (string?_ofString _), ?_⟩
  refine Option.bind_eq_some_iff.2 ⟨_, (optionalMember?_eq rfl).trans (limit?_ofLimit _), ?_⟩
  refine Option.bind_eq_some_iff.2 ⟨_, (optionalMember?_eq rfl).trans (string?_ofString _), ?_⟩
  refine Option.bind_eq_some_iff.2 ⟨_, (optionalMember?_eq rfl).trans (string?_ofString _), ?_⟩
  rfl

theorem readJson?_jsonChars (q : Query) : readJson? q.jsonChars = some q.onClock := by
  rw [readJson?, jsonChars, read?_render q.wellFormed_json, Option.bind_some, ofJson?_json]

end Query
end SeriesBench
