import Lifecycle.Execution.Report
import Lifecycle.Execution.World

/-!
# Executions

An execution takes a record through a transition. It refuses an illegal transition before anything
runs, commits the new state only after the operation succeeded, and lets a failed record recover
into the error state of the machine.

Operations change the pending record and return it; they need not save it. The commit belongs to
the execution, so that a failed operation leaves the stored record as it was. Recovery is made on
the side: it is attempted at most once, and the caller sees the error of the operation whatever
came of it.
-/

namespace Lifecycle

open Time (Instant)

/-- What came of a recovery. -/
inductive RecoveryOutcome where
  /-- The machine has no error state. -/
  | notConfigured
  /-- The execution was part of a recovery itself. -/
  | alreadyRecovering
  /-- The record was taken to the error state and stored. -/
  | recovered (record : Record)
  /-- The recovery failed, and the record is left as it was. -/
  | failed (error : ExecutionError StoreError)
deriving DecidableEq, Repr

namespace Record

/-- The record with a report on a failure, and with the state to which it was heading. -/
def withFailure (record : Record) (failedTarget : State) (report : ErrorReport) : Record :=
  (record.setAttribute errorAttribute report.text).setAttribute errorStateAttribute
    failedTarget.name

end Record

namespace Machine

variable (machine : Machine)

/-- Take a record through a transition, if that leads from the state of the record to the target. -/
def move (record : Record) (transition : String) (target : State) (recovery : Bool)
    (time : Instant) : Except InvalidTransition Record :=
  if machine.target? record.state transition = some target then
    .ok (record.apply transition target recovery time)
  else .error { origin := record.state, attempted := target, transition }

/-- The pending record of a transition: the state has moved to the target, and the move is in the
history. Nothing is committed. -/
def prepare (record : Record) (transition : String) (target : State) (time : Instant) :
    Except InvalidTransition Record :=
  machine.move record transition target false time

/-- The pending record of a recovery: the failure is reported on the record, and the state has
moved to the error state. -/
def divert (record : Record) (failedTarget : State) (report : ErrorReport) (errorState : State)
    (time : Instant) : Except InvalidTransition Record :=
  machine.move (record.withFailure failedTarget report) Transition.recoveryName errorState true
    time

variable {σ : Type u} {ε : Type v} [Host σ]

/-- Check the transition, run the operation on the pending record, and save what it returns. -/
def attempt [OperationFault ε] (record : Record) (transition : String) (target : State)
    (operation : Operation σ ε) (world : World σ) :
    Except (ExecutionError ε) Record × World σ :=
  match machine.prepare record transition target world.now with
  | .error rejected => (.error (.invalidTransition rejected), world)
  | .ok pending =>
    match operation pending world with
    | (.error error, world) => (.error (.operationFailure transition error), world)
    | (.ok changed, world) =>
      match world.save changed with
      | (.error error, world) =>
        (.error (.operationFailure transition (OperationFault.ofStore error)), world)
      | (.ok stored, world) => (.ok stored, world)

/-- Take a record to the error state and save it. -/
def recover (record : Record) (failedTarget : State) (report : ErrorReport) (errorState : State)
    (world : World σ) : Except (ExecutionError StoreError) Record × World σ :=
  match machine.divert record failedTarget report errorState world.now with
  | .error rejected => (.error (.invalidTransition rejected), world)
  | .ok pending =>
    match world.save pending with
    | (.error error, world) =>
      (.error (.operationFailure Transition.recoveryName error), world)
    | (.ok stored, world) => (.ok stored, world)

/-- Deal with a failure: let the record recover, where there is an error state and the failure did
not happen during a recovery. -/
def onFailure [Fault ε] (context : Context) (record : Record) (failedTarget : State) (error : ε)
    (world : World σ) : RecoveryOutcome × World σ :=
  match machine.errorState with
  | none => (.notConfigured, world)
  | some errorState =>
    if context.isRecovering then
      (.alreadyRecovering, world.emit (.recoverySkipped record.id))
    else
      let report := ErrorReport.ofFault error
      match machine.recover record failedTarget report errorState world with
      | (.ok stored, world) =>
        (.recovered stored,
          world.emit (.recovered stored.id record.state failedTarget errorState))
      | (.error recoveryError, world) =>
        (.failed recoveryError,
          world.emit (.recoveryFailed record.id record.state failedTarget report.message
            recoveryError.message))

/-- Execute a transition within a context. -/
def executeIn [OperationFault ε] (context : Context) (record : Record) (transition : String)
    (target : State) (operation : Operation σ ε) (world : World σ) :
    Except (ExecutionError ε) Record × World σ :=
  match machine.attempt record transition target operation world with
  | (.ok stored, world) =>
    (.ok stored, world.emit (.applied stored.id transition record.state target))
  | (.error (.invalidTransition rejected), world) =>
    (.error (.invalidTransition rejected),
      world.emit (.rejected record.id transition rejected.origin rejected.attempted))
  | (.error (.operationFailure transition error), world) =>
    let world := world.emit
      (.failed record.id transition record.state target (Fault.message error))
    -- the outcome of the recovery is told by events alone
    let (_, world) := machine.onFailure context record target error world
    (.error (.operationFailure transition error), world)

/-- Execute a transition that nothing surrounds. -/
def execute [OperationFault ε] (record : Record) (transition : String) (target : State)
    (operation : Operation σ ε) (world : World σ) :
    Except (ExecutionError ε) Record × World σ :=
  machine.executeIn .root record transition target operation world

end Machine

end Lifecycle
