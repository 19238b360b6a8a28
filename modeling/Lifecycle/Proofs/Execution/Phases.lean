import Lifecycle.Proofs.Execution.Outcome

/-!
# Executions in phases

Next to other executions, an execution takes several steps: the guard, its operation, the commit and
the recovery. Anything may happen in between. `Phase` says how far an execution has come, and
`Machine.advance` is the next step on its own.

Taken one after the other, the steps make up `Machine.executeIn`: this is `Machine.inPhases_eq`, for
every host and every operation.
-/

namespace Lifecycle

/-- What is asked of an execution, apart from its operation. -/
structure Request where
  /-- What surrounds the execution. -/
  context : Context
  /-- The record that goes through the transition. -/
  record : Record
  /-- The name of the transition. -/
  transition : String
  /-- Where the transition should lead. -/
  target : State

/-- How far an execution has come. -/
inductive Phase (ε : Type v) where
  /-- The operation runs on the pending record. -/
  | operating (pending : Record)
  /-- The operation has returned a record, which is offered to the store next. -/
  | committing (changed : Record)
  /-- The operation or the commit has failed, and the failure is dealt with next. -/
  | recovering (error : ε)
  /-- The execution has returned. -/
  | done (result : Except (ExecutionError ε) Record)

namespace Phase

variable {ε : Type v}

/-- The record on which the execution is still at work. -/
def atWork? : Phase ε → Option Record
  | operating pending => some pending
  | committing changed => some changed
  | recovering _ => none
  | done _ => none

/-- The record that the execution has returned. -/
def returned? : Phase ε → Option Record
  | done (.ok stored) => some stored
  | _ => none

/-- The operation or the commit of a transition has failed. -/
def HasFailed (transition : String) (phase : Phase ε) : Prop :=
  ∃ error, phase = recovering error ∨ phase = done (.error (.operationFailure transition error))

end Phase

namespace Request

variable {σ : Type u} {ε : Type v} (request : Request)

/-- Go on to the recovery. -/
def fail [Fault ε] (error : ε) (world : World σ) : Phase ε × World σ :=
  (.recovering error, world.emit (.failed request.record.id request.transition request.record.state
    request.target (Fault.message error)))

/-- Go on with the answer of the operation. -/
def answered [Fault ε] (answer : Except ε Record) (world : World σ) : Phase ε × World σ :=
  match answer with
  | .ok changed => (.committing changed, world)
  | .error error => request.fail error world

/-- Save what the operation returned. -/
def commit [Host σ] [OperationFault ε] (changed : Record) (world : World σ) : Phase ε × World σ :=
  match world.save changed with
  | (.ok stored, world) =>
    (.done (.ok stored), world.emit (.applied stored.id request.transition request.record.state
      request.target))
  | (.error error, world) => request.fail (OperationFault.ofStore error) world

end Request

namespace Machine

variable {σ : Type u} {ε : Type v} [Host σ] (machine : Machine) (request : Request)

/-- Check the transition. -/
def start (world : World σ) : Phase ε × World σ :=
  match machine.prepare request.record request.transition request.target world.now with
  | .ok pending => (.operating pending, world)
  | .error rejected =>
    (.done (.error (.invalidTransition rejected)),
      world.emit (.rejected request.record.id request.transition rejected.origin
        rejected.attempted))

/-- Deal with a failure, and return it. -/
def conclude [Fault ε] (error : ε) (world : World σ) : Phase ε × World σ :=
  (.done (.error (.operationFailure request.transition error)),
    (machine.onFailure request.context request.record request.target error world).2)

variable [OperationFault ε]

/-- The next step of an execution whose operation has ended, if there is one. -/
def advance (phase : Phase ε) (world : World σ) : Phase ε × World σ :=
  match phase with
  | .committing changed => request.commit changed world
  | .recovering error => machine.conclude request error world
  | phase => (phase, world)

/-- All steps of an execution, one after the other. -/
def inPhases (operation : Operation σ ε) (world : World σ) : Phase ε × World σ :=
  let (started, world) := machine.start request world
  let (answered, world) :=
    match started with
    | .operating pending =>
      let (answer, world) := operation pending world
      request.answered answer world
    | phase => (phase, world)
  let (committed, world) := machine.advance request answered world
  machine.advance request committed world

/-- An execution takes these steps, one after the other. -/
theorem inPhases_eq (operation : Operation σ ε) (world : World σ) :
    machine.inPhases request operation world =
      (.done (machine.executeIn request.context request.record request.transition request.target
        operation world).1,
      (machine.executeIn request.context request.record request.transition request.target
        operation world).2) := by
  have hends := executes_executeIn machine request.context request.record request.transition
    request.target operation world
  generalize machine.executeIn request.context request.record request.transition request.target
    operation world = ending at hends ⊢
  unfold inPhases start prepare
  -- the way in which the execution ends says which phases its steps pass through
  cases hends with
  | refused hedge =>
    rw [move_of_ne false hedge]
    rfl
  | committed hedge hoperation hsave =>
    rw [move_of_target false hedge]
    simp only [hoperation, Request.answered, advance, Request.commit, hsave]
  | failed hedge hfails =>
    rw [move_of_target false hedge]
    cases hfails with
    | operation hoperation =>
      simp only [hoperation, Request.answered, Request.fail, advance, conclude]
    | commit hoperation hsave =>
      simp only [hoperation, Request.answered, advance, Request.commit, hsave, Request.fail,
        conclude]

end Machine

end Lifecycle
