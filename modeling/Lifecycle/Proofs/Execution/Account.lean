import Lifecycle.Proofs.Execution.Atomicity
import Lifecycle.Proofs.Execution.Phases

/-!
# What one execution does

An `Account` of an execution tells apart what its operation, its commit and the recovery did. The
operation may be anything, further executions included, and so may be the host.

`Machine.bounded_account` says what the library does around the operation: it offers what was
returned, and if the execution failed outside a recovery and there is an error state, it attempts
one recovery, which calls no operation and offers one record at most. By `Machine.account_grows`,
this is all.
-/

namespace Lifecycle

/-! ### What a world has seen since -/

/-- Every attempt of a recovery ends with one of two events. -/
def Event.isAttempt : Event → Bool
  | recovered .. | recoveryFailed .. => true
  | _ => false

namespace World

variable {σ : Type u}

/-- The calls that were noted since an earlier moment. -/
def callsSince (world earlier : World (Observed σ)) : List Observed.Call :=
  world.host.calls.drop earlier.host.calls.length

/-- The events that were logged since an earlier moment. -/
def eventsSince (world earlier : World σ) : List Event :=
  world.log.drop earlier.log.length

/-- Between two moments, these calls were noted and these events were logged. -/
structure Grows (before after : World (Observed σ)) (calls : List Observed.Call)
    (events : List Event) : Prop where
  calls_eq : after.host.calls = before.host.calls ++ calls
  log_eq : after.log = before.log ++ events

namespace Grows

variable {before between after : World (Observed σ)} {calls calls' : List Observed.Call}
  {events events' : List Event}

theorem refl (world : World (Observed σ)) : Grows world world [] [] :=
  ⟨by simp, by simp⟩

theorem trans (hfirst : Grows before between calls events)
    (hsecond : Grows between after calls' events') :
    Grows before after (calls ++ calls') (events ++ events') where
  calls_eq := by rw [hsecond.calls_eq, hfirst.calls_eq, List.append_assoc]
  log_eq := by rw [hsecond.log_eq, hfirst.log_eq, List.append_assoc]

theorem emit (world : World (Observed σ)) (event : Event) :
    Grows world (world.emit event) [] [event] :=
  ⟨by simp [World.emit], rfl⟩

theorem save [Host σ] {record : Record} {answer : Except StoreError Record}
    (h : before.save record = (answer, after)) : Grows before after [.save record] [] := by
  simp only [World.save, Host.save, Prod.mk.injEq] at h
  obtain ⟨-, rfl⟩ := h
  exact ⟨rfl, by simp⟩

theorem callsSince_eq (h : Grows before after calls events) : after.callsSince before = calls := by
  simp [callsSince, h.calls_eq]

theorem eventsSince_eq (h : Grows before after calls events) :
    after.eventsSince before = events := by
  simp [eventsSince, h.log_eq]

end Grows

/-- Between two moments, recoveries were attempted this often. Apart from that, only events were
logged: no operation was called, and no more than one record was offered for every attempt. -/
def Attempts (before after : World (Observed σ)) (count : Nat) : Prop :=
  ∃ (offered : List Record) (events : List Event),
    before.Grows after (offered.map .save) events ∧
      events.countP Event.isAttempt = count ∧ offered.length ≤ count

namespace Attempts

variable {before between after : World (Observed σ)} {event : Event} {count : Nat}

theorem emit (world : World (Observed σ)) (hevent : event.isAttempt = false) :
    Attempts world (world.emit event) 0 :=
  ⟨[], [event], .emit world event, by simp [hevent], by simp⟩

/-- Events of another kind do not count. -/
theorem after_emit (hevent : event.isAttempt = false)
    (h : Attempts (before.emit event) after count) : Attempts before after count := by
  obtain ⟨offered, events, hgrows, hcount, hoffered⟩ := h
  exact ⟨offered, _, (World.Grows.emit before event).trans hgrows, by simp [hevent, hcount],
    hoffered⟩

end Attempts

end World

/-! ### Accounts -/

/-- How an execution ended. -/
inductive Ending where
  | committed
  | refused
  | failed
deriving DecidableEq, Repr

/-- How the execution with this result ended. -/
def Ending.of : Except (ExecutionError ε) Record → Ending
  | .ok _ => committed
  | .error (.invalidTransition _) => refused
  | .error (.operationFailure _ _) => failed

/-- The record that a call is about. -/
def Observed.Call.record : Observed.Call → Record
  | operation pending => pending
  | save offered => offered

/-- What one execution did. -/
structure Account where
  machine : Machine
  request : Request
  ending : Ending
  /-- The record on which the operation was called, if it was. -/
  pending : Option Record
  /-- The record that the operation returned, if it did. -/
  returned : Option Record
  /-- The calls after the operation had ended, up to the commit. -/
  commit : List Observed.Call
  /-- The calls after that. -/
  aftermath : List Observed.Call
  /-- The events after that. -/
  events : List Event

namespace Account

variable (account : Account)

/-- How often a recovery was attempted. -/
def attempts : Nat :=
  account.events.countP Event.isAttempt

/-- The steps that the library itself wrote into histories: that of the pending record, and those of
the records that were offered after the commit. -/
def written : List Step :=
  (account.pending.toList ++ account.aftermath.map Observed.Call.record).filterMap
    fun record => record.history.last?

/-- What an execution is allowed to do. -/
structure Bounded : Prop where
  /-- The operation was called on the record that was asked for, after its transition. -/
  pending_eq : ∀ pending ∈ account.pending, ∃ time, pending =
    account.request.record.apply account.request.transition account.request.target false time
  /-- What the operation returned was offered to the store, and nothing else. -/
  commit_eq : account.commit = account.returned.toList.map .save
  /-- An execution that failed outside a recovery attempts one, if there is an error state. One that
  succeeded, was refused, or is part of a recovery attempts none. -/
  attempts_eq : account.attempts =
    if account.ending = .failed ∧ account.request.context.isRecovering = false ∧
      account.machine.errorState.isSome then 1 else 0
  /-- Nothing but saves comes after the commit, and at most one for every attempt. -/
  aftermath_eq : ∃ offered : List Record,
    account.aftermath = offered.map .save ∧ offered.length ≤ account.attempts

variable {account}

/-- An execution that is part of a recovery attempts none, offers nothing after the commit, and
writes no step of a recovery. -/
theorem Bounded.quiet_of_recovering (hbounded : account.Bounded)
    (hcontext : account.request.context.isRecovering = true) :
    account.attempts = 0 ∧ account.aftermath = [] ∧
      ∀ step ∈ account.written, step.recovery = false := by
  have hattempts : account.attempts = 0 := by simp [hbounded.attempts_eq, hcontext]
  obtain ⟨offered, haftermath, hoffered⟩ := hbounded.aftermath_eq
  have hsilent : account.aftermath = [] := by
    rw [hattempts, Nat.le_zero, List.length_eq_zero_iff] at hoffered
    rw [haftermath, hoffered, List.map_nil]
  refine ⟨hattempts, hsilent, ?_⟩
  intro step hstep
  -- what is left is the step of the pending record
  simp only [written, hsilent, List.map_nil, List.append_nil, List.mem_filterMap,
    Option.mem_toList] at hstep
  obtain ⟨pending, hpending, hlast⟩ := hstep
  obtain ⟨time, rfl⟩ := hbounded.pending_eq pending hpending
  simp only [Record.apply, History.last?_record, Option.some.injEq] at hlast
  rw [← hlast]

end Account

/-! ### Executions are bounded -/

namespace Machine

variable {σ : Type u} {ε : Type v} [Host σ]

/-- Dealing with a failure, a recovery is attempted outside recoveries, if there is an error
state. -/
theorem attempts_onFailure [Fault ε] (machine : Machine) (context : Context) (record : Record)
    (failedTarget : State) (error : ε) (world : World (Observed σ)) :
    world.Attempts (machine.onFailure context record failedTarget error world).2
      (if context.isRecovering = false ∧ machine.errorState.isSome then 1 else 0) := by
  have hends := recovers_onFailure machine context record failedTarget error world
  generalize machine.onFailure context record failedTarget error world = ending at hends ⊢
  cases hends with
  | notConfigured hstate =>
    simp only [hstate, Option.isSome_none, Bool.false_eq_true, and_false, if_false]
    exact ⟨[], [], .refl world, rfl, Nat.le_refl 0⟩
  -- a recovery that is skipped is an event, but no attempt
  | alreadyRecovering hstate hcontext =>
    simp only [hcontext, Bool.true_eq_false, false_and, if_false]
    exact .emit world rfl
  | refused hstate hcontext hedge hrejected =>
    simp only [hstate, hcontext, Option.isSome_some, and_self, if_true]
    exact ⟨[], _, .emit world _, rfl, Nat.zero_le 1⟩
  | unsaved hstate hcontext hedge hsave | recovered hstate hcontext hedge hsave =>
    simp only [hstate, hcontext, Option.isSome_some, and_self, if_true]
    exact ⟨[_], _, (World.Grows.save hsave).trans (.emit _ _), rfl, Nat.le_refl 1⟩

variable [OperationFault ε] (machine : Machine) (request : Request)

/-- What the operation of an execution answers, if it is called, and the world after it. -/
def operated (operation : Operation σ ε) (world : World σ) : Option (Except ε Record) × World σ :=
  match machine.prepare request.record request.transition request.target world.now with
  | .ok pending =>
    let (answer, world) := operation pending world
    (some answer, world)
  | .error _ => (none, world)

/-- The account of an execution. -/
def account (operation : Operation (Observed σ) ε) (world : World (Observed σ)) : Account :=
  let operated := machine.operated request operation world
  let attempted :=
    machine.attempt request.record request.transition request.target operation world
  let ended := machine.executeIn request.context request.record request.transition request.target
    operation world
  { machine, request
    ending := .of ended.1
    pending :=
      (machine.prepare request.record request.transition request.target world.now).toOption
    returned := operated.1.bind Except.toOption
    commit := attempted.2.callsSince operated.2
    -- everything that is done about a failure is done after the attempt
    aftermath := ended.2.callsSince attempted.2
    events := ended.2.eventsSince attempted.2 }

variable (operation : Operation (Observed σ) ε) (world : World (Observed σ))

/-- After the operation, what it returned is offered, and nothing else is done until the commit has
ended. -/
theorem operated_grows :
    (machine.operated request operation world).2.Grows
      (machine.attempt request.record request.transition request.target operation world).2
      (((machine.operated request operation world).1.bind Except.toOption).toList.map .save)
      [] := by
  unfold operated attempt
  rcases machine.prepare request.record request.transition request.target world.now with
    rejected | pending
  · exact .refl world
  · dsimp only
    rcases operation pending world with ⟨error | changed, after⟩
    · exact .refl after
    -- the commit is one save, whatever the store answers
    · dsimp only
      rcases hsave : after.save changed with ⟨error | stored, last⟩ <;> exact .save hsave

/-- After the commit, only failures are dealt with. -/
theorem attempts_executeIn :
    let ended := machine.executeIn request.context request.record request.transition request.target
      operation world
    (machine.attempt request.record request.transition request.target operation world).2.Attempts
      ended.2 (if Ending.of ended.1 = .failed ∧ request.context.isRecovering = false ∧
        machine.errorState.isSome then 1 else 0) := by
  unfold executeIn
  rcases machine.attempt request.record request.transition request.target operation world with
    ⟨(rejected | ⟨name, error⟩) | stored, after⟩
  · exact .emit after rfl
  -- the failure is told of before it is dealt with
  · have hrecovery := machine.attempts_onFailure request.context request.record request.target error
      (after.emit (.failed request.record.id name request.record.state request.target
        (Fault.message error)))
    simp only [Ending.of, true_and]
    exact hrecovery.after_emit rfl
  · exact .emit after rfl

/-- There is a pending record only behind the guard. -/
theorem pending_of_account {pending : Record}
    (h : (machine.account request operation world).pending = some pending) :
    pending = request.record.apply request.transition request.target false world.now := by
  simp only [account] at h
  rcases hprepare : machine.prepare request.record request.transition request.target world.now with
    rejected | prepared
  · rw [hprepare] at h
    exact nomatch h
  · rw [hprepare] at h
    obtain rfl := Option.some.inj h
    exact (prepare_eq_ok hprepare).2

/-- Every execution is bounded, whatever its operation is. -/
theorem bounded_account : (machine.account request operation world).Bounded := by
  obtain ⟨offered, events, hgrows, hattempts, hoffered⟩ :=
    machine.attempts_executeIn request operation world
  have hcount : (machine.account request operation world).attempts = events.countP _ :=
    congrArg (List.countP Event.isAttempt) hgrows.eventsSince_eq
  refine
    { pending_eq := ?_
      commit_eq := (machine.operated_grows request operation world).callsSince_eq
      attempts_eq := hcount.trans hattempts
      aftermath_eq := ⟨offered, hgrows.callsSince_eq, ?_⟩ }
  · intro pending hpending
    exact ⟨world.now, pending_of_account machine request operation world hpending⟩
  · rw [hcount, hattempts]
    exact hoffered

/-- After its operation, an execution does what its account says. -/
theorem account_grows :
    let account := machine.account request operation world
    (machine.operated request operation world).2.Grows
      (machine.executeIn request.context request.record request.transition request.target operation
        world).2 (account.commit ++ account.aftermath) account.events := by
  intro account
  have hcommit := machine.operated_grows request operation world
  obtain ⟨offered, events, hgrows, -, -⟩ := machine.attempts_executeIn request operation world
  have hgrown := hcommit.trans hgrows
  -- what was called and logged in between is what the account has
  rwa [← hcommit.callsSince_eq, ← hgrows.callsSince_eq, ← hgrows.eventsSince_eq] at hgrown

end Machine

end Lifecycle
