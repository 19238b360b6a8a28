import Lifecycle.Proofs.Execution.Outcome
import Lifecycle.Proofs.Machine.Soundness
import Lifecycle.Proofs.Record.Attributes
import Lifecycle.Proofs.Store.Saving

/-!
# What a recovery does

`Machine.onFailure` asks three questions, in this order: whether there is an error state, whether the
failure happened during a recovery, and whether a recovery starts from the state of the record. Then
the diverted copy of the record is offered to the store, once. `Machine.recovery_effect` says which
of the four outcomes this has, and what it leaves of the record and of the store.

A recovery is never refused for leading somewhere else than to the error state: the edges of its
name were checked when the machine was built, by `Machine.target?_recoveryName`.
-/

namespace Lifecycle

open Time (Instant)

/-- The reason that is given for a failed recovery. -/
def RecoveryOutcome.reason? : RecoveryOutcome → Option String
  | failed error => some error.message
  | _ => none

namespace Record

variable (record : Record) (failedTarget : State) (report : ErrorReport) (errorState : State)
  (time : Instant)

/-- The stored copy of a record after its recovery, in terms of the record before. -/
structure RecoveredFrom (stored : Record) : Prop where
  id_eq : stored.id = record.id
  state_eq : stored.state = errorState
  version_eq : stored.version = record.version + 1
  history_eq : stored.history.steps = record.history.steps ++
    [{ transition := "error", origin := record.state, target := errorState, time,
       recovery := true }]
  error_eq : stored.attribute? "error" = some report.text
  errorState_eq : stored.attribute? "error_state" = some failedTarget.name
  attribute_eq : ∀ name, name ≠ "error" → name ≠ "error_state" →
    stored.attribute? name = record.attribute? name

/-- The attributes of a diverted record are those of the record, but for the two that report the
failure. -/
theorem attribute?_diverted (name : String) :
    (record.diverted failedTarget report errorState time).attribute? name =
      if name = errorStateAttribute then some failedTarget.name
      else if name = errorAttribute then some report.text
      else record.attribute? name := by
  change ((record.attributes.insert errorAttribute report.text).insert errorStateAttribute
    failedTarget.name).get? name = _
  rw [Attributes.get?_insert, Attributes.get?_insert]
  rfl

/-- What the store makes of a diverted record is the recovered one. -/
theorem recoveredFrom_diverted :
    record.RecoveredFrom failedTarget report errorState time
      ((record.diverted failedTarget report errorState time).withVersion (record.version + 1)) where
  id_eq := rfl
  state_eq := rfl
  version_eq := rfl
  history_eq := rfl
  error_eq := attribute?_diverted record failedTarget report errorState time "error"
  errorState_eq := attribute?_diverted record failedTarget report errorState time "error_state"
  attribute_eq name herror hstate := by
    have hread := attribute?_diverted record failedTarget report errorState time name
    exact hread.trans ((if_neg hstate).trans (if_neg herror))

end Record

namespace Machine

section Effect

variable (machine : Machine) (context : Context) (record : Record)

/-- A recovery is offered to the store: there is an error state, the failure did not happen during a
recovery, and a recovery starts from the state of the record. -/
def OffersRecovery : Prop :=
  machine.errorState.isSome = true ∧ context.isRecovering = false ∧
    machine.isReachable record.state Transition.recoveryName = true

instance : Decidable (machine.OffersRecovery context record) := by
  unfold OffersRecovery
  infer_instance

/-- What comes of dealing with a failure. -/
structure RecoveryEffect (failedTarget : State) (report : ErrorReport)
    (before : World UnreliableStore) (outcome : RecoveryOutcome) (after : World UnreliableStore) :
    Prop where
  notConfigured_iff : outcome = .notConfigured ↔ machine.errorState = none
  alreadyRecovering_iff : outcome = .alreadyRecovering ↔
    machine.errorState.isSome = true ∧ context.isRecovering = true
  /-- The record recovers where the store accepts its diverted copy. -/
  recovered_iff : ∀ stored, outcome = .recovered stored ↔
    machine.OffersRecovery context record ∧ ∃ errorState, machine.errorState = some errorState ∧
      (before.save (record.diverted failedTarget report errorState before.now)).1 = .ok stored
  /-- The recovery fails where it cannot start, or the store refuses the diverted copy. -/
  failed_iff : ∀ reason, outcome.reason? = some reason ↔
    ∃ errorState, machine.errorState = some errorState ∧ context.isRecovering = false ∧
      ((machine.isReachable record.state Transition.recoveryName = false ∧
          reason = (ExecutionError.invalidTransition (ε := StoreError)
            { origin := record.state, attempted := errorState, transition := "error" }).message) ∨
        machine.isReachable record.state Transition.recoveryName = true ∧ ∃ storeError,
          (before.save (record.diverted failedTarget report errorState before.now)).1 =
            .error storeError ∧
          reason = (ExecutionError.operationFailure "error" storeError).message)
  /-- A record that recovered is in the error state, with a report on the failure. The store has this
  copy in the place of the one that it had before, and every other entry as before. -/
  recovered_effect : ∀ stored, outcome = .recovered stored →
    (∃ errorState, machine.errorState = some errorState ∧
      record.RecoveredFrom failedTarget report errorState before.now stored) ∧
    after.host.memory.get? record.id = some stored ∧
    before.host.memory.Replaced stored after.host.memory
  /-- Nothing is stored in all other cases. -/
  unchanged : (∀ stored, outcome ≠ .recovered stored) → after.host.memory = before.host.memory
  /-- The store is called once, and only if a recovery is offered to it. -/
  saves_eq : after.host.saves =
    if machine.OffersRecovery context record then before.host.saves.advance
    else before.host.saves

end Effect

variable {machine : Machine} {context : Context} {record stored : Record}
  {failedTarget errorState : State} {report : ErrorReport} {world after : World UnreliableStore}
  {storeError : StoreError}

/-- Where there is an error state, a recovery leads there from the states from which it starts. -/
theorem target?_recoveryName_iff (hstate : machine.errorState = some errorState) {current : State} :
    machine.target? current Transition.recoveryName = some errorState ↔
      machine.isReachable current Transition.recoveryName = true := by
  rw [target?_recoveryName hstate]
  cases machine.isReachable current Transition.recoveryName with
  | true => simp
  | false => simp

/-! ### One outcome after the other -/

theorem recoveryEffect_notConfigured (hstate : machine.errorState = none) :
    machine.RecoveryEffect context record failedTarget report world .notConfigured world := by
  have hoffers : ¬ machine.OffersRecovery context record := by simp [OffersRecovery, hstate]
  exact
    { notConfigured_iff := by simp [hstate]
      alreadyRecovering_iff := by simp [hstate]
      recovered_iff := by simp [hoffers]
      failed_iff := by simp [hstate, RecoveryOutcome.reason?]
      recovered_effect := by simp
      unchanged := fun _ => rfl
      saves_eq := by rw [if_neg hoffers] }

theorem recoveryEffect_alreadyRecovering (hstate : machine.errorState = some errorState)
    (hcontext : context.isRecovering = true) (event : Event) :
    machine.RecoveryEffect context record failedTarget report world .alreadyRecovering
      (world.emit event) := by
  have hoffers : ¬ machine.OffersRecovery context record := by simp [OffersRecovery, hcontext]
  exact
    { notConfigured_iff := by simp [hstate]
      alreadyRecovering_iff := by simp [hstate, hcontext]
      recovered_iff := by simp [hoffers]
      failed_iff := by simp [hcontext, RecoveryOutcome.reason?]
      recovered_effect := by simp
      unchanged := fun _ => rfl
      saves_eq := by
        rw [if_neg hoffers]
        rfl }

theorem recoveryEffect_refused (hstate : machine.errorState = some errorState)
    (hcontext : context.isRecovering = false)
    (hunreachable : machine.isReachable record.state Transition.recoveryName = false)
    (event : Event) :
    machine.RecoveryEffect context record failedTarget report world
      (.failed (.invalidTransition
        { origin := record.state, attempted := errorState, transition := Transition.recoveryName }))
      (world.emit event) := by
  have hoffers : ¬ machine.OffersRecovery context record := by
    simp [OffersRecovery, hunreachable]
  refine
    { notConfigured_iff := by simp [hstate]
      alreadyRecovering_iff := by simp [hcontext]
      recovered_iff := by simp [hoffers]
      failed_iff := ?_
      recovered_effect := by simp
      unchanged := fun _ => rfl
      saves_eq := by
        rw [if_neg hoffers]
        rfl }
  intro reason
  constructor
  · rintro ⟨⟩
    exact ⟨errorState, hstate, hcontext, .inl ⟨hunreachable, rfl⟩⟩
  · rintro ⟨other, hother, -, ⟨-, rfl⟩ | ⟨hreachable, -⟩⟩
    · obtain rfl := Option.some.inj (hstate.symm.trans hother)
      rfl
    · exact absurd (hunreachable.symm.trans hreachable) Bool.false_ne_true

section Offered

variable (hstate : machine.errorState = some errorState) (hcontext : context.isRecovering = false)
  (hreachable : machine.isReachable record.state Transition.recoveryName = true)

include hstate hcontext hreachable

theorem offersRecovery : machine.OffersRecovery context record := by
  simp [OffersRecovery, hstate, hcontext, hreachable]

theorem recoveryEffect_unsaved
    (hsave : world.save (record.diverted failedTarget report errorState world.now) =
      (.error storeError, after)) (event : Event) :
    machine.RecoveryEffect context record failedTarget report world
      (.failed (.operationFailure Transition.recoveryName storeError)) (after.emit event) := by
  have hoffers := offersRecovery hstate hcontext hreachable
  obtain ⟨hafter, -⟩ := UnreliableStore.save_eq_error (World.save_host hsave)
  refine
    { notConfigured_iff := by simp [hstate]
      alreadyRecovering_iff := by simp [hcontext]
      recovered_iff := by simp [hstate, hsave]
      failed_iff := ?_
      recovered_effect := by simp
      unchanged := fun _ => by simp [World.emit, hafter]
      saves_eq := by simp [hoffers, World.emit, hafter] }
  intro reason
  constructor
  · rintro ⟨⟩
    exact ⟨errorState, hstate, hcontext, .inr ⟨hreachable, storeError, by rw [hsave], rfl⟩⟩
  · rintro ⟨other, hother, -, ⟨hunreachable, -⟩ | ⟨-, refusal, hrefusal, rfl⟩⟩
    · exact absurd (hunreachable.symm.trans hreachable) Bool.false_ne_true
    -- there is one error state, so that it is the same copy that was refused
    · obtain rfl := Option.some.inj (hstate.symm.trans hother)
      rw [hsave] at hrefusal
      rw [Except.error.inj hrefusal]
      rfl

theorem recoveryEffect_recovered
    (hsave : world.save (record.diverted failedTarget report errorState world.now) =
      (.ok stored, after)) (event : Event) :
    machine.RecoveryEffect context record failedTarget report world (.recovered stored)
      (after.emit event) := by
  have hoffers := offersRecovery hstate hcontext hreachable
  obtain ⟨-, hstored, hafter⟩ := UnreliableStore.save_eq_ok (World.save_host hsave)
  refine
    { notConfigured_iff := by simp [hstate]
      alreadyRecovering_iff := by simp [hcontext]
      recovered_iff := by simp [hstate, hsave, hoffers]
      failed_iff := by simp [hstate, hreachable, hsave, RecoveryOutcome.reason?]
      recovered_effect := ?_
      unchanged := fun hnone => absurd rfl (hnone stored)
      saves_eq := by simp [hoffers, World.emit, hafter] }
  rintro _ ⟨⟩
  have hrecovered : record.RecoveredFrom failedTarget report errorState world.now stored :=
    hstored ▸ record.recoveredFrom_diverted ..
  have hreplaced : world.host.memory.Replaced stored after.host.memory := by
    rw [hafter]
    exact Store.replaced_put _ _
  have hheld : after.host.memory.get? record.id = some stored := by
    rw [hreplaced, if_pos hrecovered.id_eq.symm]
  exact ⟨⟨errorState, hstate, hrecovered⟩, hheld, hreplaced⟩

end Offered

/-- Exact effect of dealing with a failure: which of the four outcomes it has, in terms of the error
state, the context, the edges of the machine and the answer of the store, and what it changes. -/
theorem recovery_effect {ε : Type v} [Fault ε] (machine : Machine) (context : Context)
    (record : Record) (failedTarget : State) (error : ε) (world : World UnreliableStore) :
    machine.RecoveryEffect context record failedTarget (ErrorReport.ofFault error) world
      (machine.onFailure context record failedTarget error world).1
      (machine.onFailure context record failedTarget error world).2 := by
  have hends := recovers_onFailure machine context record failedTarget error world
  generalize machine.onFailure context record failedTarget error world = ending at hends ⊢
  cases hends with
  | notConfigured hstate => exact recoveryEffect_notConfigured hstate
  | alreadyRecovering hstate hcontext => exact recoveryEffect_alreadyRecovering hstate hcontext _
  | refused hstate hcontext hedge hrejected =>
    -- an edge to another state is ruled out, so that there is none
    rw [ne_eq, target?_recoveryName_iff hstate, Bool.not_eq_true] at hedge
    subst hrejected
    exact recoveryEffect_refused hstate hcontext hedge _
  | unsaved hstate hcontext hedge hsave =>
    rw [target?_recoveryName_iff hstate] at hedge
    exact recoveryEffect_unsaved hstate hcontext hedge hsave _
  | recovered hstate hcontext hedge hsave =>
    rw [target?_recoveryName_iff hstate] at hedge
    exact recoveryEffect_recovered hstate hcontext hedge hsave _

/-- A stale copy of a record does not recover, and the newer one stays as it is. -/
example :
    let record := { Record.create delivery (.ofNat 1) with version := 1 }
    let newer := { record with version := 2 }
    let world : World UnreliableStore := { host := { memory := Store.empty.put newer } }
    let ending := delivery.onFailure .root record ⟨"confirmed"⟩ (StoreError.unavailable "down") world
    ending.1 = .failed (.operationFailure "error" (.conflict record.id 1 2)) ∧
      ending.2.host.memory.get? record.id = some newer := ⟨rfl, rfl⟩

end Machine

end Lifecycle
