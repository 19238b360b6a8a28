import Lifecycle.Execution

/-!
# How executions end

What an execution can do, said once and for every host. `Machine.Recovers` lists the ways in which
`Machine.onFailure` may end, and `Machine.Executes` those in which `Machine.executeIn` may end, each
with everything that led there: the guard, the operation, the saves and the events.

`Machine.recovers_onFailure` and `Machine.executes_executeIn` say that there is no other way.
Whatever an execution preserves is proved by cases on these relations, without another look at the
definitions of executions.
-/

namespace Lifecycle

open Time (Instant)

namespace Record

/-- The copy of a record that a recovery offers to the store: the failure is reported on it, and it
was taken to the error state. -/
def diverted (record : Record) (failedTarget : State) (report : ErrorReport) (errorState : State)
    (time : Instant) : Record :=
  (record.withFailure failedTarget report).apply Transition.recoveryName errorState true time

variable {record : Record} {failedTarget errorState : State} {report : ErrorReport} {time : Instant}

@[simp]
theorem id_diverted : (record.diverted failedTarget report errorState time).id = record.id := rfl

@[simp]
theorem version_diverted :
    (record.diverted failedTarget report errorState time).version = record.version := rfl

end Record

namespace Machine

variable {σ : Type u} {ε : Type v} {machine : Machine} {context : Context} {record : Record}
  {transition : String} {target failedTarget errorState : State} {time : Instant}
  {report : ErrorReport}

theorem move_of_target (recovery : Bool)
    (hedge : machine.target? record.state transition = some target) :
    machine.move record transition target recovery time =
      .ok (record.apply transition target recovery time) :=
  if_pos hedge

theorem move_of_ne (recovery : Bool)
    (hedge : machine.target? record.state transition ≠ some target) :
    machine.move record transition target recovery time =
      .error { origin := record.state, attempted := target, transition } :=
  if_neg hedge

/-- The pending record of a transition was moved along an edge of the machine. -/
theorem prepare_eq_ok {pending : Record}
    (h : machine.prepare record transition target time = .ok pending) :
    machine.target? record.state transition = some target ∧
      pending = record.apply transition target false time := by
  rw [prepare] at h
  by_cases hedge : machine.target? record.state transition = some target
  · rw [move_of_target false hedge, Except.ok.injEq] at h
    exact ⟨hedge, h.symm⟩
  · simp [move_of_ne false hedge] at h

/-- A recovery along an edge of the machine offers the diverted copy. -/
theorem divert_of_target
    (hedge : machine.target? record.state Transition.recoveryName = some errorState) :
    machine.divert record failedTarget report errorState time =
      .ok (record.diverted failedTarget report errorState time) :=
  move_of_target true hedge

/-- Where no such edge leads to the error state, the recovery is refused. -/
theorem divert_of_ne
    (hedge : machine.target? record.state Transition.recoveryName ≠ some errorState) :
    machine.divert record failedTarget report errorState time =
      .error { origin := record.state, attempted := errorState,
               transition := Transition.recoveryName } :=
  move_of_ne true hedge

variable [Host σ]

section Recovery

variable [Fault ε]

/-- The ways in which dealing with a failure may end. -/
inductive Recovers (machine : Machine) (context : Context) (record : Record) (failedTarget : State)
    (error : ε) (world : World σ) : RecoveryOutcome × World σ → Prop where
  /-- There is no error state. -/
  | notConfigured (hstate : machine.errorState = none) :
      Recovers machine context record failedTarget error world (.notConfigured, world)
  /-- The failure happened during a recovery. -/
  | alreadyRecovering {errorState : State} (hstate : machine.errorState = some errorState)
      (hcontext : context.isRecovering = true) :
      Recovers machine context record failedTarget error world
        (.alreadyRecovering, world.emit (.recoverySkipped record.id))
  /-- No recovery starts from the state of the record. -/
  | refused {errorState : State} (hstate : machine.errorState = some errorState)
      (hcontext : context.isRecovering = false)
      (hedge : machine.target? record.state Transition.recoveryName ≠ some errorState)
      {rejected : InvalidTransition}
      (hrejected : rejected = { origin := record.state, attempted := errorState,
                                transition := Transition.recoveryName }) :
      Recovers machine context record failedTarget error world
        (.failed (.invalidTransition rejected),
          world.emit (.recoveryFailed record.id record.state failedTarget
            (ErrorReport.ofFault error).message
            (ExecutionError.invalidTransition (ε := StoreError) rejected).message))
  /-- The diverted copy was not saved. -/
  | unsaved {errorState : State} {storeError : StoreError} {after : World σ}
      (hstate : machine.errorState = some errorState) (hcontext : context.isRecovering = false)
      (hedge : machine.target? record.state Transition.recoveryName = some errorState)
      (hsave : world.save (record.diverted failedTarget (ErrorReport.ofFault error) errorState
        world.now) = (.error storeError, after)) :
      Recovers machine context record failedTarget error world
        (.failed (.operationFailure Transition.recoveryName storeError),
          after.emit (.recoveryFailed record.id record.state failedTarget
            (ErrorReport.ofFault error).message
            (ExecutionError.operationFailure Transition.recoveryName storeError).message))
  /-- The diverted copy was saved. -/
  | recovered {errorState : State} {stored : Record} {after : World σ}
      (hstate : machine.errorState = some errorState) (hcontext : context.isRecovering = false)
      (hedge : machine.target? record.state Transition.recoveryName = some errorState)
      (hsave : world.save (record.diverted failedTarget (ErrorReport.ofFault error) errorState
        world.now) = (.ok stored, after)) :
      Recovers machine context record failedTarget error world
        (.recovered stored,
          after.emit (.recovered stored.id record.state failedTarget errorState))

/-- Dealing with a failure ends in one of these ways. -/
theorem recovers_onFailure (machine : Machine) (context : Context) (record : Record)
    (failedTarget : State) (error : ε) (world : World σ) :
    Recovers machine context record failedTarget error world
      (machine.onFailure context record failedTarget error world) := by
  unfold onFailure
  -- the cases follow the questions in the order in which they are asked
  cases hstate : machine.errorState with
  | none => exact .notConfigured hstate
  | some errorState =>
    cases hcontext : context.isRecovering with
    | true => exact .alreadyRecovering hstate hcontext
    | false =>
      by_cases hedge : machine.target? record.state Transition.recoveryName = some errorState
      · simp only [recover, divert_of_target hedge]
        cases hsave : world.save (record.diverted failedTarget (ErrorReport.ofFault error)
          errorState world.now) with
        | mk answer after =>
          cases answer with
          | error storeError => exact .unsaved hstate hcontext hedge hsave
          | ok stored => exact .recovered hstate hcontext hedge hsave
      · simp only [recover, divert_of_ne hedge]
        exact .refused hstate hcontext hedge rfl

end Recovery

section Execution

variable [OperationFault ε]

/-- An operation, or the save of what it returned, failed with an error, and left a world. -/
inductive Fails (operation : Operation σ ε) (pending : Record) (world : World σ) :
    ε → World σ → Prop where
  /-- The operation failed. -/
  | operation {error : ε} {after : World σ}
      (hoperation : operation pending world = (.error error, after)) :
      Fails operation pending world error after
  /-- The operation succeeded, and the commit failed. -/
  | commit {changed : Record} {inner after : World σ} {storeError : StoreError}
      (hoperation : operation pending world = (.ok changed, inner))
      (hsave : inner.save changed = (.error storeError, after)) :
      Fails operation pending world (OperationFault.ofStore storeError) after

/-- The ways in which an execution may end. -/
inductive Executes (machine : Machine) (context : Context) (record : Record) (transition : String)
    (target : State) (operation : Operation σ ε) (world : World σ) :
    Except (ExecutionError ε) Record × World σ → Prop where
  /-- The transition does not lead from the state of the record to the target. -/
  | refused (hedge : machine.target? record.state transition ≠ some target) :
      Executes machine context record transition target operation world
        (.error (.invalidTransition { origin := record.state, attempted := target, transition }),
          world.emit (.rejected record.id transition record.state target))
  /-- What the operation returned was saved. -/
  | committed {changed stored : Record} {inner after : World σ}
      (hedge : machine.target? record.state transition = some target)
      (hoperation : operation (record.apply transition target false world.now) world =
        (.ok changed, inner))
      (hsave : inner.save changed = (.ok stored, after)) :
      Executes machine context record transition target operation world
        (.ok stored, after.emit (.applied stored.id transition record.state target))
  /-- The operation or the commit failed, and the failure was dealt with. -/
  | failed {error : ε} {after : World σ}
      (hedge : machine.target? record.state transition = some target)
      (hfails : Fails operation (record.apply transition target false world.now) world error
        after) :
      Executes machine context record transition target operation world
        (.error (.operationFailure transition error),
          (machine.onFailure context record target error (after.emit
            (.failed record.id transition record.state target (Fault.message error)))).2)

/-- An execution ends in one of these ways. -/
theorem executes_executeIn (machine : Machine) (context : Context) (record : Record)
    (transition : String) (target : State) (operation : Operation σ ε) (world : World σ) :
    Executes machine context record transition target operation world
      (machine.executeIn context record transition target operation world) := by
  unfold executeIn attempt prepare
  by_cases hedge : machine.target? record.state transition = some target
  -- behind the guard, the operation and then the commit may fail
  · simp only [move_of_target false hedge]
    cases hoperation : operation (record.apply transition target false world.now) world with
    | mk answer inner =>
      cases answer with
      | error error => exact .failed hedge (.operation hoperation)
      | ok changed =>
        cases hsave : inner.save changed with
        | mk answer after =>
          cases answer with
          | error storeError =>
            simp only [hsave]
            exact .failed hedge (.commit hoperation hsave)
          | ok stored =>
            simp only [hsave]
            exact .committed hedge hoperation hsave
  · simp only [move_of_ne false hedge]
    exact .refused hedge

end Execution

end Machine

end Lifecycle
