import SeriesBench.Proofs.Failure
import SeriesBench.Proofs.Workload.History

set_option autoImplicit false

namespace SeriesBench
open Registration
variable {σ : Type}

namespace Backend

def capable (b : Backend σ) : UseCase → Bool
  | .devops => b.devops?.isSome
  | .iot => b.iot?.isSome

/-- Whether the backend supports what it has a way to start, and says no more of itself. -/
def SupportsByDefault (b : Backend σ) : Prop := ∀ useCase, b.supports useCase = b.capable useCase

def FailsToStart (b : Backend σ) (d : Dataset) (e : WorkloadError) : UseCase → Prop
  | .devops => ∃ start, b.devops? = some start ∧ start d = .error e
  | .iot => ∃ start, b.iot? = some start ∧ start d = .error e

def Starts (b : Backend σ) (d : Dataset) (state : σ) (opened : OpenQuery σ) : QueryType → Prop
  | .devops query => ∃ start queries, b.devops? = some start ∧ start d = .ok (state, queries) ∧
    opened = .devops query queries
  | .iot query => ∃ start queries, b.iot? = some start ∧ start d = .ok (state, queries) ∧
    opened = .iot query queries

theorem Starts.useCase_eq {b : Backend σ} {d : Dataset} {state : σ} {opened : OpenQuery σ}
    {type : QueryType} (h : b.Starts d state opened type) : opened.useCase = type.useCase := by
  cases type with
  | devops query =>
    obtain ⟨_, _, _, _, rfl⟩ := h
    rfl
  | iot query =>
    obtain ⟨_, _, _, _, rfl⟩ := h
    rfl

end Backend

namespace Registry

section Start
variable {α β : Type} {start? : Option (Dataset → Except WorkloadError α)} {useCase : UseCase}
  {name : String} {d : Dataset} {f : α → β}

/-- A start that a backend may not have, as `openQuery` makes it for each use case. -/
def startOr (start? : Option (Dataset → Except WorkloadError α)) (useCase : UseCase) (name : String)
    (d : Dataset) (f : α → β) : Except WorkloadError β :=
  match start? with
  | none => .error (.useCaseNotImplemented useCase name)
  | some start => (start d).map f

theorem startOr_reports : Reports (startOr start? useCase name d f)
    [fun e => start?.isSome = false ∧ e = .useCaseNotImplemented useCase name,
      fun e => ∃ start, start? = some start ∧ start d = .error e] := by
  cases start? with
  | none => exact Reports.found fun e => by simp
  | some start =>
    apply Reports.vacuous (by simp)
    apply Reports.map
    exact Reports.one fun e => by simp

theorem startOr_eq_ok {b : β} (h : startOr start? useCase name d f = .ok b) :
    ∃ start a, start? = some start ∧ start d = .ok a ∧ f a = b := by
  cases start? with
  | none => exact absurd h (by simp [startOr])
  | some start =>
    obtain ⟨a, hstart, hf⟩ := map_eq_ok_iff.1 h
    exact ⟨start, a, rfl, hstart, hf⟩

end Start

section Open
variable {b : Backend σ} {type : QueryType} {d : Dataset}

theorem openQuery_devops (b : Backend σ) (query : DevopsQuery) (d : Dataset) :
    openQuery b (.devops query) d =
      startOr b.devops? .devops b.name d fun r => (r.1, .devops query r.2) := by
  unfold openQuery startOr
  cases b.devops? <;> rfl

theorem openQuery_iot (b : Backend σ) (query : IotQuery) (d : Dataset) :
    openQuery b (.iot query) d =
      startOr b.iot? .iot b.name d fun r => (r.1, .iot query r.2) := by
  unfold openQuery startOr
  cases b.iot? <;> rfl

theorem openQuery_reports (b : Backend σ) (type : QueryType) (d : Dataset) :
    Reports (openQuery b type d)
      [fun e => b.capable type.useCase = false ∧ e = .useCaseNotImplemented type.useCase b.name,
        fun e => b.FailsToStart d e type.useCase] := by
  cases type with
  | devops query =>
    rw [openQuery_devops]
    exact startOr_reports
  | iot query =>
    rw [openQuery_iot]
    exact startOr_reports

theorem starts_of_openQuery {state : σ} {opened : OpenQuery σ}
    (h : openQuery b type d = .ok (state, opened)) : b.Starts d state opened type := by
  cases type with
  | devops query =>
    rw [openQuery_devops] at h
    obtain ⟨start, ⟨state', queries⟩, hstart, hd, heq⟩ := startOr_eq_ok h
    obtain ⟨rfl, rfl⟩ := Prod.mk.inj heq
    exact ⟨start, queries, hstart, hd, rfl⟩
  | iot query =>
    rw [openQuery_iot] at h
    obtain ⟨start, ⟨state', queries⟩, hstart, hd, heq⟩ := startOr_eq_ok h
    obtain ⟨rfl, rfl⟩ := Prod.mk.inj heq
    exact ⟨start, queries, hstart, hd, rfl⟩

end Open

section Asked
variable (calls : List (Registration σ)) (name : String) (useCase : UseCase) (queryType : String)
  (d : Dataset)

/-- What can be wrong with the opening of a generator, in the order in which it is looked at. -/
def openingChecks : List (WorkloadError → Prop) :=
  [fun e => firstBackend? calls name = none ∧ e = .unknownBackend name,
    fun e => (∃ b, firstBackend? calls name = some b ∧ useCase ∉ b.useCases) ∧
      e = .useCaseNotRegistered useCase name,
    fun e => lastType? calls useCase queryType = none ∧ e = .unknownQueryType useCase queryType,
    fun e => (∃ b, firstBackend? calls name = some b ∧ b.backend.capable useCase = false) ∧
      e = .useCaseNotImplemented useCase name,
    fun e => ∃ b, firstBackend? calls name = some b ∧ b.backend.FailsToStart d e useCase]

def Opened (g : QueryGenerator σ) : Prop :=
  g.query.useCase = useCase ∧ g.queryType = queryType ∧ g.nextId = 0 ∧
    ∃ b type, firstBackend? calls name = some b ∧ useCase ∈ b.useCases ∧
      lastType? calls useCase queryType = some type ∧ b.backend.Starts d g.state g.query type

theorem generator_reports : Reports ((empty.after calls).generator name useCase queryType d)
    (openingChecks calls name useCase queryType d) := by
  have holds := holds_after calls
  unfold generator openingChecks
  rw [holds.backends, holds.types]
  cases hb : firstBackend? calls name with
  | none => exact Reports.found fun e => by simp
  | some b =>
    apply Reports.vacuous (by simp)
    dsimp only
    by_cases hu : useCase ∈ b.useCases
    · rw [if_neg (by simpa using hu)]
      apply Reports.vacuous (by simp [hu])
      cases htype : lastType? calls useCase queryType with
      | none => exact Reports.found fun e => by simp
      | some type =>
        apply Reports.vacuous (by simp)
        obtain rfl := useCase_of_lastType? htype
        obtain ⟨-, rfl, -⟩ := of_firstBackend? hb
        have reports := (openQuery_reports b.backend type d).bind_ok fun r =>
          (⟨queryType, r.2, r.1, 0⟩ : QueryGenerator σ)
        simp only [Option.some.injEq, exists_eq_left']
        exact reports
    · rw [if_pos hu]
      exact Reports.found fun e => by simp [hu]

theorem opened_of_generator {g : QueryGenerator σ}
    (h : (empty.after calls).generator name useCase queryType d = .ok g) :
    Opened calls name useCase queryType d g := by
  have holds := holds_after calls
  unfold generator at h
  rw [holds.backends, holds.types] at h
  cases hb : firstBackend? calls name with
  | none => exact absurd (hb ▸ h) (by simp)
  | some b =>
    simp only [hb] at h
    split at h
    · exact absurd h (by simp)
    · rename_i hu
      cases htype : lastType? calls useCase queryType with
      | none => exact absurd (htype ▸ h) (by simp)
      | some type =>
        simp only [htype] at h
        obtain ⟨⟨state, query⟩, hopen, heq⟩ := bind_eq_ok_iff.1 h
        obtain rfl := Except.ok.inj heq
        have starts := starts_of_openQuery hopen
        exact ⟨starts.useCase_eq.trans (useCase_of_lastType? htype), rfl, rfl, b, type, hb,
          not_not.1 hu, htype, starts⟩

theorem capable_of_firstBackend? {b : RegisteredBackend σ}
    (hdefault : ∀ b useCases, .backend b useCases ∈ calls → b.SupportsByDefault)
    (hb : firstBackend? calls name = some b) (hu : useCase ∈ b.useCases) :
    b.backend.capable useCase = true := by
  obtain ⟨hcall, -, hsupports⟩ := of_firstBackend? hb
  rw [← hdefault b.backend b.useCases hcall useCase]
  exact hsupports useCase hu

/-- After any calls, a generator is refused for the first thing that is wrong with what is asked
for, and one that is opened makes queries of the use case. If all backends only say that they
support what they can start, none is refused for want of a way to start; the error can only be one
that a start made of its own. -/
theorem generator_by_history :
    Reports ((empty.after calls).generator name useCase queryType d)
        (openingChecks calls name useCase queryType d) ∧
      (∀ g, (empty.after calls).generator name useCase queryType d = .ok g →
        Opened calls name useCase queryType d g) ∧
      ((∀ b useCases, .backend b useCases ∈ calls → b.SupportsByDefault) →
        ∀ u n, (empty.after calls).generator name useCase queryType d =
            .error (.useCaseNotImplemented u n) →
          ∃ b, firstBackend? calls name = some b ∧
            b.backend.FailsToStart d (.useCaseNotImplemented u n) useCase) := by
  have reports := generator_reports calls name useCase queryType d
  refine ⟨reports, fun g => opened_of_generator calls name useCase queryType d, ?_⟩
  intro hdefault u n h
  rcases (reports _).1 h with ⟨-, h⟩ | ⟨-, ⟨-, h⟩ | ⟨hregistered, ⟨-, h⟩ | ⟨-, h | ⟨-, h⟩⟩⟩⟩
  · exact absurd h (by simp)
  · exact absurd h (by simp)
  · exact absurd h (by simp)
  · -- the use case is one that the backend is registered for, or the check before had found it
    obtain ⟨⟨b, hb, hcapable⟩, -⟩ := h
    have hu : useCase ∈ b.useCases := by
      refine Decidable.byContradiction fun hu => ?_
      exact hregistered _ ⟨⟨b, hb, hu⟩, rfl⟩
    rw [capable_of_firstBackend? calls name useCase hdefault hb hu] at hcapable
    exact absurd hcapable (by simp)
  · rcases h with h | ⟨-, h⟩
    · exact h
    · exact h.elim

end Asked

/-- Has a way to start queries about hosts that fails as if there were none. -/
def waywardBackend : Backend Unit where
  name := "wayward"
  devops? := some fun _ => .error (.useCaseNotImplemented .devops "wayward")

/-- Says that it supports what it cannot start. -/
def boastfulBackend : Backend Unit where
  name := "boastful"
  supports := fun _ => true

def callsFor (b : Backend σ) : List (Registration σ) := [.builtins, .backend b [.devops]]

theorem eq_of_mem_callsFor {b b' : Backend σ} {useCases : List UseCase}
    (h : .backend b' useCases ∈ callsFor b) : b' = b := by
  rcases List.mem_cons.1 h with h | h
  · exact absurd h (by simp)
  · exact (Registration.backend.inj (List.mem_singleton.1 h)).1

/-- Neither of a backend that says no more than it can start, nor of one that does, is the error
ruled out by its registration. -/
theorem wayward_not_implemented :
    (∀ b useCases, .backend b useCases ∈ callsFor waywardBackend → b.SupportsByDefault) ∧
    (empty.after (callsFor waywardBackend)).generator "wayward" .devops "lastpoint"
      ⟨Time.Instant.epoch, Time.Instant.epoch, 1, 0⟩ =
        .error (.useCaseNotImplemented .devops "wayward") ∧
    (empty.after (callsFor boastfulBackend)).backendNames = ["boastful"] ∧
    (empty.after (callsFor boastfulBackend)).generator "boastful" .devops "lastpoint"
      ⟨Time.Instant.epoch, Time.Instant.epoch, 1, 0⟩ =
        .error (.useCaseNotImplemented .devops "boastful") := by
  refine ⟨?_, rfl, rfl, rfl⟩
  intro b useCases hcall useCase
  rw [eq_of_mem_callsFor hcall]
  cases useCase <;> rfl

def standardCalls : List (Registration Sampler) := callsFor Cassandra.backend

theorem cassandra_supportsByDefault : Cassandra.backend.SupportsByDefault := by
  intro useCase
  cases useCase <;> rfl

theorem not_failsToStart_cassandra (d : Dataset) (u useCase : UseCase) (n : String) :
    ¬ Cassandra.backend.FailsToStart d (.useCaseNotImplemented u n) useCase := by
  cases useCase with
  | iot =>
    rintro ⟨start, hstart, -⟩
    exact absurd hstart (by simp [Cassandra.backend])
  | devops =>
    rintro ⟨start, hstart, hd⟩
    obtain rfl := Option.some.inj hstart
    by_cases h : d.stop < d.start <;> simp [Sampler.ofDataset, h, Except.map] at hd

theorem standard_implements : standard = .ok (empty.after standardCalls) ∧
    (∀ b useCases, .backend b useCases ∈ standardCalls → b.SupportsByDefault) ∧
    ∀ name useCase queryType d u n,
      (empty.after standardCalls).generator name useCase queryType d ≠
        .error (.useCaseNotImplemented u n) := by
  have byDefault : ∀ b useCases, .backend b useCases ∈ standardCalls → b.SupportsByDefault := by
    intro b useCases hcall
    rw [eq_of_mem_callsFor hcall]
    exact cassandra_supportsByDefault
  refine ⟨rfl, byDefault, ?_⟩
  intro name useCase queryType d u n h
  obtain ⟨b, hb, hfails⟩ :=
    (generator_by_history standardCalls name useCase queryType d).2.2 byDefault u n h
  rw [eq_of_mem_callsFor (of_firstBackend? hb).1] at hfails
  exact not_failsToStart_cassandra d u useCase n hfails

end Registry
end SeriesBench
