import SeriesBench.Proofs.StringMap
import SeriesBench.Workload.Registry

set_option autoImplicit false

namespace SeriesBench
variable {σ : Type}

inductive Registration (σ : Type) where
  | builtins
  | queryType (name : String) (type : QueryType)
  | backend (b : Backend σ) (useCases : List UseCase)

namespace Registration

def types : Registration σ → List (String × QueryType)
  | .builtins => Registry.builtinQueryTypes
  | .queryType name type => [(name, type)]
  | .backend _ _ => []

def backend? (name : String) : Registration σ → Option (RegisteredBackend σ)
  | .backend b useCases =>
    if b.name = name ∧ ∀ useCase ∈ useCases, b.supports useCase = true then some ⟨b, useCases⟩
    else none
  | .builtins => none
  | .queryType _ _ => none

def lastType? (calls : List (Registration σ)) (useCase : UseCase) (name : String) :
    Option QueryType :=
  ((calls.flatMap types).reverse.find? fun t => t.1 = name ∧ t.2.useCase = useCase).map (·.2)

/-- The backend of the first call that could register one under a name. -/
def firstBackend? (calls : List (Registration σ)) (name : String) : Option (RegisteredBackend σ) :=
  calls.findSome? (backend? name)

variable {calls : List (Registration σ)} {name : String}

theorem lastType?_cons (call : Registration σ) (calls : List (Registration σ)) (useCase : UseCase)
    (name : String) : lastType? (call :: calls) useCase name =
      (lastType? calls useCase name).or (lastType? [call] useCase name) := by
  simp only [lastType?, List.flatMap_cons, List.flatMap_nil, List.append_nil, List.reverse_append,
    List.find?_append, Option.map_or]

theorem firstBackend?_cons (call : Registration σ) (calls : List (Registration σ))
    (name : String) : firstBackend? (call :: calls) name =
      (backend? name call).or (firstBackend? calls name) := by
  rw [firstBackend?, List.findSome?_cons]
  cases backend? name call <;> rfl

theorem useCase_of_lastType? {useCase : UseCase} {type : QueryType}
    (h : lastType? calls useCase name = some type) : type.useCase = useCase := by
  obtain ⟨t, ht, rfl⟩ := Option.map_eq_some_iff.1 h
  have found := List.find?_some ht
  exact (of_decide_eq_true found).2

theorem of_firstBackend? {b : RegisteredBackend σ} (h : firstBackend? calls name = some b) :
    .backend b.backend b.useCases ∈ calls ∧ b.backend.name = name ∧
      ∀ useCase ∈ b.useCases, b.backend.supports useCase = true := by
  obtain ⟨call, hcall, hb⟩ := List.exists_of_findSome?_eq_some h
  cases call with
  | builtins => exact absurd hb (by simp [backend?])
  | queryType name type => exact absurd hb (by simp [backend?])
  | backend b' useCases =>
    obtain ⟨⟨hname, hsupports⟩, hsome⟩ := Option.ite_none_right_eq_some.1 hb
    obtain rfl := Option.some.inj hsome
    exact ⟨hcall, hname, hsupports⟩

end Registration

namespace Registry
open Registration
variable {r : Registry σ} {b : Backend σ} {useCases : List UseCase}

theorem get?_registerQueryType (r : Registry σ) (name : String) (type : QueryType)
    (useCase : UseCase) (key : String) :
    ((r.registerQueryType name type).queryTypes useCase).get? key =
      if name = key ∧ type.useCase = useCase then some type
      else (r.queryTypes useCase).get? key := by
  unfold registerQueryType
  by_cases h : useCase = type.useCase
  · simp [h]
  · simp [h, Ne.symm h]

theorem get?_foldl_registerQueryType (r : Registry σ) (types : List (String × QueryType))
    (useCase : UseCase) (key : String) :
    ((types.foldl (fun r t => r.registerQueryType t.1 t.2) r).queryTypes useCase).get? key =
      ((types.reverse.find? fun t => t.1 = key ∧ t.2.useCase = useCase).map (·.2)).or
        ((r.queryTypes useCase).get? key) := by
  induction types generalizing r with
  | nil => rfl
  | cons t rest ih =>
    rw [List.foldl_cons, ih, get?_registerQueryType, List.reverse_cons, List.find?_append,
      Option.map_or, Option.or_assoc]
    congr 1
    by_cases h : t.1 = key ∧ t.2.useCase = useCase
    · simp [h]
    · rw [if_neg h, List.find?_cons_of_neg (by simpa using h)]
      rfl

theorem backends_foldl_registerQueryType (r : Registry σ) (types : List (String × QueryType)) :
    (types.foldl (fun r t => r.registerQueryType t.1 t.2) r).backends = r.backends := by
  induction types generalizing r with
  | nil => rfl
  | cons t rest ih => exact ih _

def FirstUnsupported (b : Backend σ) (useCases : List UseCase) (useCase : UseCase) : Prop :=
  ∃ front back, useCases = front ++ useCase :: back ∧ (∀ u ∈ front, b.supports u = true) ∧
    b.supports useCase = false

theorem find?_unsupported {useCase : UseCase} :
    (useCases.find? fun u => !b.supports u) = some useCase ↔
      FirstUnsupported b useCases useCase := by
  rw [List.find?_eq_some_iff_append, FirstUnsupported]
  constructor
  · rintro ⟨hunsupported, front, back, rfl, hfront⟩
    exact ⟨front, back, rfl, by simpa using hfront, by simpa using hunsupported⟩
  · rintro ⟨front, back, rfl, hfront, hunsupported⟩
    exact ⟨by simpa using hunsupported, front, back, rfl, by simpa using hfront⟩

theorem find?_unsupported_eq_none : (useCases.find? fun u => !b.supports u) = none ↔
    ∀ u ∈ useCases, b.supports u = true := by
  simp

theorem FirstUnsupported.unique {u v : UseCase} (hu : FirstUnsupported b useCases u)
    (hv : FirstUnsupported b useCases v) : u = v :=
  Option.some.inj ((find?_unsupported.2 hu).symm.trans (find?_unsupported.2 hv))

theorem FirstUnsupported.not_all {u : UseCase} (hu : FirstUnsupported b useCases u) :
    ¬ ∀ v ∈ useCases, b.supports v = true := by
  intro h
  exact absurd ((find?_unsupported.2 hu).symm.trans (find?_unsupported_eq_none.2 h)) (by simp)

/-- When a backend is refused whose name stands for `held` already. Support is looked at first. -/
inductive Refused (held : Option (RegisteredBackend σ)) (b : Backend σ) (useCases : List UseCase) :
    WorkloadError → Prop
  | unsupported {useCase : UseCase} (first : FirstUnsupported b useCases useCase) :
    Refused held b useCases (.useCaseNotImplemented useCase b.name)
  | taken (supported : ∀ u ∈ useCases, b.supports u = true) (holds : held.isSome = true) :
    Refused held b useCases (.duplicateBackend b.name)

theorem registerBackend_eq_error_iff {e : WorkloadError} :
    r.registerBackend b useCases = .error e ↔ Refused (r.backends.get? b.name) b useCases e := by
  unfold registerBackend
  cases hfind : useCases.find? fun u => !b.supports u with
  | some u =>
    have first := find?_unsupported.1 hfind
    constructor
    · intro h
      obtain rfl := Except.error.inj h
      exact .unsupported first
    · intro h
      cases h with
      | unsupported first' => rw [first.unique first']
      | taken supported => exact absurd supported first.not_all
  | none =>
    have supported := find?_unsupported_eq_none.1 hfind
    dsimp only
    rw [StringMap.contains]
    constructor
    · intro h
      split at h
      · rename_i holds
        obtain rfl := Except.error.inj h
        exact .taken supported holds
      · exact absurd h (by simp)
    · intro h
      cases h with
      | unsupported first => exact absurd supported first.not_all
      | taken _ holds => rw [if_pos holds]

theorem of_registerBackend {next : Registry σ} (h : r.registerBackend b useCases = .ok next) :
    (∀ u ∈ useCases, b.supports u = true) ∧ r.backends.get? b.name = none ∧
      next = { r with backends := r.backends.insert b.name ⟨b, useCases⟩ } := by
  unfold registerBackend at h
  split at h
  · exact absurd h (by simp)
  · rename_i hfind
    split at h
    · exact absurd h (by simp)
    · rename_i hfree
      rw [StringMap.contains, Option.not_isSome_iff_eq_none] at hfree
      exact ⟨find?_unsupported_eq_none.1 hfind, hfree, (Except.ok.inj h).symm⟩

def register (r : Registry σ) : Registration σ → Except WorkloadError (Registry σ)
  | .builtins => .ok r.withBuiltinQueryTypes
  | .queryType name type => .ok (r.registerQueryType name type)
  | .backend b useCases => r.registerBackend b useCases

/-- The registry after a call, which is as before if the call fails. -/
def step (r : Registry σ) (call : Registration σ) : Registry σ :=
  match r.register call with
  | .ok next => next
  | .error _ => r

theorem step_of_error {call : Registration σ} {e : WorkloadError} (h : r.register call = .error e) :
    r.step call = r := by
  rw [step, h]

theorem get?_types_step (r : Registry σ) (call : Registration σ) (useCase : UseCase)
    (name : String) : ((r.step call).queryTypes useCase).get? name =
      (lastType? [call] useCase name).or ((r.queryTypes useCase).get? name) := by
  cases call with
  | builtins =>
    rw [lastType?, List.flatMap_singleton]
    exact get?_foldl_registerQueryType r builtinQueryTypes useCase name
  | queryType n type => exact get?_foldl_registerQueryType r [(n, type)] useCase name
  | backend b useCases =>
    change _ = (r.queryTypes useCase).get? name
    cases h : r.register (.backend b useCases) with
    | error e => rw [step_of_error h]
    | ok next =>
      obtain ⟨-, -, rfl⟩ := of_registerBackend h
      rw [step, h]

theorem get?_backends_step (r : Registry σ) (call : Registration σ) (name : String) :
    (r.step call).backends.get? name = (r.backends.get? name).or (call.backend? name) := by
  cases call with
  | builtins =>
    rw [backend?, Option.or_none]
    exact congrArg (·.get? name) (backends_foldl_registerQueryType r builtinQueryTypes)
  | queryType n type =>
    rw [backend?, Option.or_none]
    rfl
  | backend b useCases =>
    rw [backend?]
    cases h : r.register (.backend b useCases) with
    | error e =>
      rw [step_of_error h]
      cases registerBackend_eq_error_iff.1 h with
      | unsupported first => rw [if_neg fun c => first.not_all c.2, Option.or_none]
      | taken supported holds =>
        by_cases hname : b.name = name
        · rw [← hname]
          obtain ⟨held, hheld⟩ := Option.isSome_iff_exists.1 holds
          rw [hheld, Option.some_or]
        · rw [if_neg fun c => hname c.1, Option.or_none]
    | ok next =>
      obtain ⟨supported, hfree, rfl⟩ := of_registerBackend h
      rw [step, h]
      dsimp only
      rw [StringMap.get?_insert]
      by_cases hname : b.name = name
      · rw [if_pos hname, if_pos ⟨hname, supported⟩, ← hname, hfree, Option.none_or]
      · rw [if_neg hname, if_neg fun c => hname c.1, Option.or_none]

def after (r : Registry σ) (calls : List (Registration σ)) : Registry σ := calls.foldl step r

theorem get?_types_after (r : Registry σ) (calls : List (Registration σ)) (useCase : UseCase)
    (name : String) : ((r.after calls).queryTypes useCase).get? name =
      (lastType? calls useCase name).or ((r.queryTypes useCase).get? name) := by
  induction calls generalizing r with
  | nil => rfl
  | cons call rest ih =>
    change (((r.step call).after rest).queryTypes useCase).get? name = _
    rw [ih, get?_types_step, lastType?_cons call rest, Option.or_assoc]

theorem get?_backends_after (r : Registry σ) (calls : List (Registration σ)) (name : String) :
    (r.after calls).backends.get? name =
      (r.backends.get? name).or (firstBackend? calls name) := by
  induction calls generalizing r with
  | nil => rw [firstBackend?, List.findSome?_nil, Option.or_none]; rfl
  | cons call rest ih =>
    change ((r.step call).after rest).backends.get? name = _
    rw [ih, get?_backends_step, firstBackend?_cons, Option.or_assoc]

structure Holds (calls : List (Registration σ)) (r : Registry σ) : Prop where
  types : ∀ useCase name, (r.queryTypes useCase).get? name = lastType? calls useCase name
  useCase_of_type : ∀ useCase name type,
    (r.queryTypes useCase).get? name = some type → type.useCase = useCase
  backends : ∀ name, r.backends.get? name = firstBackend? calls name

theorem holds_after (calls : List (Registration σ)) : Holds calls (empty.after calls) := by
  have types (useCase : UseCase) (name : String) :
      ((empty.after calls).queryTypes useCase).get? name = lastType? calls useCase name := by
    rw [get?_types_after]
    exact Option.or_none
  refine ⟨types, ?_, ?_⟩
  · intro useCase name type h
    exact useCase_of_lastType? ((types useCase name).symm.trans h)
  · intro name
    rw [get?_backends_after]
    exact Option.none_or

/-- After any calls, a registry holds the last query type of each name and use case and the first
backend of each name that could be registered. Only the registration of a backend can fail, and a
call that fails might be left out, whatever comes after it. -/
theorem registered_by_history (calls : List (Registration σ)) :
    Holds calls (empty.after calls) ∧
      (∀ call e, (empty.after calls).register call = .error e ↔ ∃ b useCases,
        call = .backend b useCases ∧ Refused (firstBackend? calls b.name) b useCases e) ∧
      ∀ call e rest, (empty.after calls).register call = .error e →
        empty.after (calls ++ call :: rest) = empty.after (calls ++ rest) := by
  have holds := holds_after calls
  refine ⟨holds, ?_, ?_⟩
  · intro call e
    constructor
    · intro h
      cases call with
      | builtins => exact absurd h (by simp [register])
      | queryType name type => exact absurd h (by simp [register])
      | backend b useCases =>
        refine ⟨b, useCases, rfl, ?_⟩
        rw [← holds.backends]
        exact registerBackend_eq_error_iff.1 h
    · rintro ⟨b, useCases, rfl, h⟩
      rw [← holds.backends] at h
      exact registerBackend_eq_error_iff.2 h
  · intro call e rest h
    have same : (empty.after calls).step call = empty.after calls := step_of_error h
    unfold after at same ⊢
    rw [List.foldl_append, List.foldl_cons, same, List.foldl_append]

end Registry
end SeriesBench
