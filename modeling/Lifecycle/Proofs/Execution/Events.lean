import Lifecycle.Proofs.Execution.Account
import Lifecycle.Proofs.Execution.Course

/-!
# Events tell what happened

The caller of an execution sees only its result. What came of a recovery is told by events, and a
record that got stuck on its way to the error state by nothing else. `Told` lists what an execution
may have to say after its operation: it depends on the result, on the error state, on the context,
and on whether a recovered copy of the record has landed in the store.

- `Played.told`: an execution says exactly this, whatever its operation did and said before;
- `Course.log_run`: while executions are played within each other, nothing else is logged;
- `Course.events_truthful`: both, with the facts that each single event stands for.
-/

namespace Lifecycle

/-! ### What there is to tell -/

/-- Among the values, this one occurs once if something is the case, and otherwise not at all. -/
def Tells {α : Type u} [BEq α] (values : List α) (value : α) (fact : Prop) : Prop :=
  (fact → values.count value = 1) ∧ (¬ fact → values.count value = 0)

/-- An event without what it is about. -/
def Event.gist (event : Event) : Level × String :=
  (event.level, event.message)

/-- The event of a failure. -/
def Request.failure {ε : Type v} [Fault ε] (request : Request) (error : ε) : Event :=
  .failed request.record.id request.transition request.record.state request.target
    (Fault.message error)

/-- The events of an execution after its operation, given its result, and what came of dealing with
its failure if there was one. -/
inductive Told {ε : Type v} [Fault ε] (machine : Machine) (request : Request) (landed : Prop) :
    Except (ExecutionError ε) Record → Option RecoveryOutcome → List Event → Prop where
  /-- The transition was committed. -/
  | applied (stored : Record) :
      Told machine request landed (.ok stored) none
        [.applied stored.id request.transition request.record.state request.target]
  /-- The transition was refused. -/
  | rejected :
      Told machine request landed
        (.error (.invalidTransition
          { origin := request.record.state, attempted := request.target,
            transition := request.transition })) none
        [.rejected request.record.id request.transition request.record.state request.target]
  /-- The transition failed, and there is no error state. -/
  | propagated (error : ε) (hstate : machine.errorState = none) :
      Told machine request landed (.error (.operationFailure request.transition error))
        (some .notConfigured) [request.failure error]
  /-- The transition failed during a recovery. -/
  | skipped (error : ε) {errorState : State} (hstate : machine.errorState = some errorState)
      (hcontext : request.context.isRecovering = true) :
      Told machine request landed (.error (.operationFailure request.transition error))
        (some .alreadyRecovering)
        [request.failure error, .recoverySkipped request.record.id]
  /-- The transition failed, and the record recovered. -/
  | recovered (error : ε) (stored : Record) {errorState : State}
      (hstate : machine.errorState = some errorState)
      (hcontext : request.context.isRecovering = false) (hlanded : landed) :
      Told machine request landed (.error (.operationFailure request.transition error))
        (some (.recovered stored))
        [request.failure error,
         .recovered request.record.id request.record.state request.target errorState]
  /-- The transition failed, and so did the recovery. -/
  | stuck (error : ε) (recoveryError : ExecutionError StoreError) {errorState : State}
      (hstate : machine.errorState = some errorState)
      (hcontext : request.context.isRecovering = false) (hlanded : ¬ landed) :
      Told machine request landed (.error (.operationFailure request.transition error))
        (some (.failed recoveryError))
        [request.failure error,
         .recoveryFailed request.record.id request.record.state request.target (Fault.message error)
           recoveryError.message]

section Facts

variable {ε : Type v} (machine : Machine) (request : Request) (landed : Prop)
  (result : Except (ExecutionError ε) Record) (outcome : Option RecoveryOutcome)

/-- An execution failed where failures are recovered from. -/
def AttemptsRecovery : Prop :=
  Ending.of result = .failed ∧ machine.errorState.isSome = true ∧
    request.context.isRecovering = false

/-- What each kind of event stands for. -/
structure Truthful (events : List Event) : Prop where
  applied : Tells (events.map Event.gist) (.debug, "Transition applied")
    (Ending.of result = .committed)
  rejected : Tells (events.map Event.gist) (.warn, "Transition rejected")
    (Ending.of result = .refused)
  failed : Tells (events.map Event.gist) (.warn, "Transition operation failed")
    (Ending.of result = .failed)
  skipped : Tells (events.map Event.gist) (.debug, "Already recovering, skipping nested recovery")
    (Ending.of result = .failed ∧ machine.errorState.isSome = true ∧
      request.context.isRecovering = true)
  recovered : Tells (events.map Event.gist) (.info, "Record recovered into error state")
    (AttemptsRecovery machine request result ∧ landed)
  stuck : Tells (events.map Event.gist)
    (.error, "Recovery transition failed; record is outside the normal state graph")
    (AttemptsRecovery machine request result ∧ ¬ landed)
  /-- A recovery that failed is reported as an error, and nothing else is. -/
  errors : Tells (events.map Event.level) .error (∃ error, outcome = some (.failed error))
  /-- A recovery fails where one is attempted, and no recovered copy lands in the store. -/
  outcome_failed_iff : (∃ error, outcome = some (.failed error)) ↔
    AttemptsRecovery machine request result ∧ ¬ landed
  /-- A failure stands alone where there is no error state, and comes first otherwise. -/
  failed_first : Ending.of result = .failed →
    events.head?.map Event.gist = some (.warn, "Transition operation failed") ∧
      events.length = if machine.errorState.isSome then 2 else 1
  /-- Otherwise there is one event. -/
  single : Ending.of result ≠ .failed → events.length = 1

end Facts

/-- The events of an execution stand for facts. -/
theorem Told.truthful {ε : Type v} [Fault ε] {machine : Machine} {request : Request} {landed : Prop}
    {result : Except (ExecutionError ε) Record} {outcome : Option RecoveryOutcome}
    {events : List Event} (h : Told machine request landed result outcome events) :
    Truthful machine request landed result outcome events := by
  -- in each case every fact is known, and there are two events at most
  cases h <;> constructor <;>
    simp [Tells, Ending.of, AttemptsRecovery, Request.failure, Event.gist, Event.message,
      Event.level, *]

/-! ### One execution -/

theorem World.log_save {σ : Type u} [Host σ] {world after : World σ} {record : Record}
    {answer : Except StoreError Record} (h : world.save record = (answer, after)) :
    after.log = world.log := by
  simp only [World.save, Prod.mk.injEq] at h
  rw [← h.2]

/-- While a record is saved between two events, these are all that is logged. -/
theorem World.log_emit_save {σ : Type u} [Host σ] {world after : World σ} {first second : Event}
    {record : Record} {answer : Except StoreError Record}
    (h : (world.emit first).save record = (answer, after)) :
    (after.emit second).log = world.log ++ [first, second] := by
  rw [emit, log_save h]
  exact List.append_assoc ..

theorem World.eventsSince_of_log_eq {σ : Type u} {world earlier : World σ} {events : List Event}
    (h : world.log = earlier.log ++ events) : world.eventsSince earlier = events := by
  rw [eventsSince, h, List.drop_left]

/-- Between two stores, a recovered copy of the record came to stand in its place: one that was taken
to the error state by a recovery, and that was not there before. -/
def Machine.RecoveryLanded (machine : Machine) (id : Uuid) (before after : Store) : Prop :=
  ∃ stored, after.get? id = some stored ∧ before.get? id ≠ some stored ∧
    machine.errorState = some stored.state ∧
    ∃ step, stored.history.last? = some step ∧ step.recovery = true

theorem Machine.not_recoveryLanded_self (machine : Machine) (id : Uuid) (store : Store) :
    ¬ machine.RecoveryLanded id store store := by
  rintro ⟨stored, hafter, hbefore, -⟩
  exact hbefore hafter

namespace Machine

section Recovery

variable {ε : Type v} [Fault ε] {machine : Machine} {request : Request} {record stored : Record}
  {failedTarget errorState : State} {report : ErrorReport} {error : ε}
  {world after : World UnreliableStore} {ending : RecoveryOutcome × World UnreliableStore}

/-- A diverted copy that was saved has landed. -/
theorem recoveryLanded_of_save (hstate : machine.errorState = some errorState)
    (hsave : world.save (record.diverted failedTarget report errorState world.now) =
      (.ok stored, after)) :
    machine.RecoveryLanded record.id world.host.memory after.host.memory := by
  obtain ⟨hversion, rfl, hafter⟩ := UnreliableStore.save_eq_ok (World.save_host hsave)
  have hstored := world.host.memory.get?_put_self
    (record.diverted failedTarget report errorState world.now) (record.version + 1)
  rw [hafter]
  refine ⟨_, hstored, ?_, hstate, _, History.last?_record .., rfl⟩
  -- the stored version was that of the record, and is the next one now
  intro hbefore
  have hnext := (Store.version_of_get? hbefore).symm.trans hversion
  exact absurd hnext (by simp [Record.withVersion])

/-- Nothing lands by a save that is refused. -/
theorem not_recoveryLanded_of_save {storeError : StoreError}
    (hsave : world.save record = (.error storeError, after)) (id : Uuid) :
    ¬ machine.RecoveryLanded id world.host.memory after.host.memory := by
  obtain ⟨hafter, -⟩ := UnreliableStore.save_eq_error (World.save_host hsave)
  rw [hafter]
  exact machine.not_recoveryLanded_self id world.host.memory

/-- What is said about a failure, whatever comes of its recovery. -/
theorem Recovers.told
    (hends : Recovers machine request.context request.record request.target error
      (world.emit (request.failure error)) ending) :
    ∃ events, ending.2.log = world.log ++ events ∧
      Told machine request
        (machine.RecoveryLanded request.record.id world.host.memory ending.2.host.memory)
        (.error (.operationFailure request.transition error)) (some ending.1) events := by
  cases hends with
  | notConfigured hstate => exact ⟨_, rfl, .propagated error hstate⟩
  | alreadyRecovering hstate hcontext =>
    exact ⟨_, List.append_assoc .., .skipped error hstate hcontext⟩
  | refused hstate hcontext hedge hrejected =>
    have hmissed := machine.not_recoveryLanded_self request.record.id world.host.memory
    exact ⟨_, List.append_assoc .., .stuck error _ hstate hcontext hmissed⟩
  | unsaved hstate hcontext hedge hsave =>
    have hmissed := machine.not_recoveryLanded_of_save hsave request.record.id
    exact ⟨_, World.log_emit_save hsave, .stuck error _ hstate hcontext hmissed⟩
  | @recovered errorState stored after hstate hcontext hedge hsave =>
    have hlanded := recoveryLanded_of_save hstate hsave
    obtain ⟨-, hstored, -⟩ := UnreliableStore.save_eq_ok (World.save_host hsave)
    -- the event names the stored copy, which is one of the record
    have hid : stored.id = request.record.id := by
      rw [hstored]
      rfl
    rw [hid]
    exact ⟨_, World.log_emit_save hsave, .recovered error stored hstate hcontext hlanded⟩

end Recovery

section Execution

variable {σ : Type u} {ε : Type v} [Host σ] {machine : Machine} {request : Request}
  {operation : Operation σ ε} {world after : World σ} {error : ε}

theorem operated_of_ne
    (hedge : machine.target? request.record.state request.transition ≠ some request.target) :
    machine.operated request operation world = (none, world) := by
  simp only [operated, prepare, move_of_ne false hedge]

theorem operated_of_target
    (hedge : machine.target? request.record.state request.transition = some request.target) :
    machine.operated request operation world =
      let pending := request.record.apply request.transition request.target false world.now
      (some (operation pending world).1, (operation pending world).2) := by
  simp only [operated, prepare, move_of_target false hedge]

variable [OperationFault ε]

theorem attempt_of_fails
    (hedge : machine.target? request.record.state request.transition = some request.target)
    (hfails : Fails operation
      (request.record.apply request.transition request.target false world.now) world error after) :
    machine.attempt request.record request.transition request.target operation world =
      (.error (.operationFailure request.transition error), after) := by
  simp only [attempt, prepare, move_of_target false hedge]
  cases hfails with
  | operation hoperation => simp only [hoperation]
  | commit hoperation hsave => simp only [hoperation, hsave]

/-- A commit that failed logs nothing. -/
theorem Fails.log_eq {pending : Record} (hfails : Fails operation pending world error after) :
    after.log = (operation pending world).2.log := by
  cases hfails with
  | operation hoperation => rw [hoperation]
  | commit hoperation hsave => rw [World.log_save hsave, hoperation]

/-- What comes of dealing with a failure, if the attempt to execute a transition failed and left this
world. -/
def outcome? (machine : Machine) (request : Request) (result : Except (ExecutionError ε) Record)
    (attempted : World σ) : Option RecoveryOutcome :=
  match result with
  | .error (.operationFailure _ error) =>
    some (machine.onFailure request.context request.record request.target error
      (attempted.emit (request.failure error))).1
  | _ => none

end Execution

/-- After its operation, an execution says what there is to tell. -/
theorem told_executeIn {ε : Type v} [OperationFault ε] (machine : Machine) (request : Request)
    (operation : Operation UnreliableStore ε) (world : World UnreliableStore) :
    let operated := (machine.operated request operation world).2
    let attempted := (machine.attempt request.record request.transition request.target operation
      world).2
    let ended := machine.executeIn request.context request.record request.transition request.target
      operation world
    ∃ events, ended.2.log = operated.log ++ events ∧
      Told machine request
        (machine.RecoveryLanded request.record.id attempted.host.memory ended.2.host.memory)
        ended.1 (machine.outcome? request ended.1 attempted) events := by
  intro operated attempted ended
  have hends : Executes machine _ _ _ _ operation world ended := executes_executeIn ..
  clear_value ended
  cases hends with
  | refused hedge =>
    have hoperated : operated = world := congrArg Prod.snd (operated_of_ne hedge)
    rw [hoperated]
    exact ⟨_, rfl, .rejected⟩
  | @committed changed stored inner after hedge hoperation hsave =>
    have hoperated : operated = inner := by
      simp only [operated, operated_of_target hedge, hoperation]
    have hlog : after.log = inner.log := World.log_save hsave
    refine ⟨_, ?_, .applied stored⟩
    rw [hoperated, ← hlog]
    rfl
  | @failed error after hedge hfails =>
    have hoperated : operated.log = after.log := by
      simp only [operated, operated_of_target hedge, hfails.log_eq]
    have hattempted : attempted = after := congrArg Prod.snd (attempt_of_fails hedge hfails)
    rw [hoperated, hattempted]
    exact (recovers_onFailure machine request.context request.record request.target error
      (after.emit (request.failure error))).told

/-- An operation is called behind the guard only. -/
theorem operated_of_refused {σ : Type u} {ε : Type v} [Host σ] [OperationFault ε]
    (machine : Machine) (request : Request) (operation : Operation σ ε) (world : World σ)
    (hrefused : Ending.of (machine.executeIn request.context request.record request.transition
      request.target operation world).1 = .refused) :
    machine.operated request operation world = (none, world) := by
  have hends := executes_executeIn machine request.context request.record request.transition
    request.target operation world
  generalize machine.executeIn _ _ _ _ operation world = ended at hends hrefused
  cases hends with
  | refused hedge => exact operated_of_ne hedge
  | committed | failed => exact nomatch hrefused

end Machine

/-! ### Executions that are played -/

/-- An execution that is played: what is asked of it, its operation, and the world in which it
starts. -/
structure Played (σ : Type u) where
  {ε : Type v}
  [fault : OperationFault ε]
  machine : Machine
  request : Request
  operation : Operation σ ε
  before : World σ

namespace Played

instance (played : Played σ) : OperationFault played.ε := played.fault

section Parts

variable {σ : Type u} [Host σ] (played : Played σ)

/-- The result, and the world in the end. -/
def ended : Except (ExecutionError played.ε) Record × World σ :=
  played.machine.executeIn played.request.context played.request.record played.request.transition
    played.request.target played.operation played.before

/-- What the operation answered, if it was called, and the world that it left. -/
def operated : Option (Except played.ε Record) × World σ :=
  played.machine.operated played.request played.operation played.before

/-- The world after the commit. -/
def attempted : World σ :=
  (played.machine.attempt played.request.record played.request.transition played.request.target
    played.operation played.before).2

/-- What came of dealing with the failure, if there was one. -/
def outcome : Option RecoveryOutcome :=
  played.machine.outcome? played.request played.ended.1 played.attempted

/-- What the execution said after its operation. -/
def events : List Event :=
  played.ended.2.eventsSince played.operated.2

end Parts

variable (played : Played.{0, v} UnreliableStore)

/-- A recovered copy of the record landed in the store, after the commit had been tried. -/
def Landed : Prop :=
  played.machine.RecoveryLanded played.request.record.id played.attempted.host.memory
    played.ended.2.host.memory

/-- After its operation, an execution logs what it has to tell, and nothing else. -/
theorem told :
    played.ended.2.log = played.operated.2.log ++ played.events ∧
      Told played.machine played.request played.Landed played.ended.1 played.outcome
        played.events := by
  obtain ⟨events, hlog, htold⟩ :=
    played.machine.told_executeIn played.request played.operation played.before
  have hevents : played.events = events := World.eventsSince_of_log_eq hlog
  rw [hevents]
  exact ⟨hlog, htold⟩

/-- The recovery of a stale copy fails. The error event is all that tells of it. -/
example :
    let stale := { Record.create Machine.delivery (.ofNat 1) with version := 1 }
    let request : Request :=
      { context := .root, record := stale, transition := "confirm", target := ⟨"confirmed"⟩ }
    let store : UnreliableStore := { memory := Store.empty.put { stale with version := 2 } }
    let played : Played UnreliableStore :=
      { machine := .delivery, request, operation := .unchanged (ε := StoreError),
        before := { host := store } }
    played.events.map Event.gist =
      [(.warn, "Transition operation failed"),
       (.error, "Recovery transition failed; record is outside the normal state graph")] := by
  decide

end Played

/-! ### Executions within executions -/

/-- What comes of calling an operation, if it is called. -/
def Machine.behindGuard {α : Type w} (machine : Machine) (request : Request) (time : Time.Instant)
    (called : Record → List α) : List α :=
  match machine.prepare request.record request.transition request.target time with
  | .ok pending => called pending
  | .error _ => []

namespace Course

section Plays

variable {σ : Type u} {ε : Type v} [Host σ]

/-- The executions of a course, in the order in which they end. -/
def played {ε : Type v} : Course σ ε → Context → World σ → List (Played.{u, v} σ)
  | finish _, _, _ => []
  | work change next, context, world =>
    (next world.host).played context { world with host := change world.host }
  | @execute _ _ _ _ machine handover record transition target operation next, context, world =>
    let request := { context := handover.context context, record, transition, target }
    let execution : Played σ :=
      { machine, request, operation := operationIn operation request.context, before := world }
    let inner := machine.behindGuard request world.now fun pending =>
      (operation pending).played request.context world
    inner ++ execution :: (next execution.ended.1).played context execution.ended.2

/-- Up to the end of its operation, an execution logs what the inner ones say. -/
theorem log_operated {machine : Machine} {request : Request} {operation : Record → Course σ ε}
    {world : World σ}
    (hcalled : ∀ pending, ((operation pending).run request.context world).2.log =
      world.log ++ ((operation pending).played request.context world).flatMap Played.events) :
    (machine.operated request (operationIn operation request.context) world).2.log =
      world.log ++ (machine.behindGuard request world.now fun pending =>
        (operation pending).played request.context world).flatMap Played.events := by
  unfold Machine.operated Machine.behindGuard
  rcases machine.prepare request.record request.transition request.target world.now with
    rejected | pending
  · exact (List.append_nil _).symm
  · exact hcalled pending

end Plays

variable {ε : Type v}

/-- While a course is played, the log grows by what its executions say, and by nothing else. -/
theorem log_run (course : Course.{0, v} UnreliableStore ε) (context : Context)
    (world : World UnreliableStore) :
    (course.run context world).2.log =
      world.log ++ (course.played context world).flatMap Played.events := by
  induction course generalizing context world with
  | finish answer => simp only [run, played, List.flatMap_nil, List.append_nil]
  | work change next ih =>
    simp only [run, played]
    exact ih ..
  | execute machine handover record transition target operation next ihOperation ihNext =>
    let request : Request := { context := handover.context context, record, transition, target }
    let execution : Played UnreliableStore :=
      { machine, request, operation := operationIn operation request.context, before := world }
    -- the operation with the executions within, then the rest of the execution, and what comes next
    have hinner : execution.operated.2.log = _ :=
      log_operated fun pending => ihOperation pending request.context world
    have houter := execution.told.1
    have hnext := ihNext execution.ended.1 context execution.ended.2
    rw [houter, hinner] at hnext
    rw [run_execute]
    simp only [played, List.flatMap_append, List.flatMap_cons, ← List.append_assoc]
    exact hnext

/-- Events tell the truth. Whatever an operation did and said, what its execution says afterwards
depends on the result, on the error state, on the context and on the store as it should, and an
operation is not even called by an execution that is refused. While executions are played within each
other, nothing else is logged. -/
theorem events_truthful :
    (∀ played : Played.{0, v} UnreliableStore,
      played.ended.2.log = played.operated.2.log ++ played.events ∧
        Told played.machine played.request played.Landed played.ended.1 played.outcome
          played.events ∧
        Truthful played.machine played.request played.Landed played.ended.1 played.outcome
          played.events ∧
        (Ending.of played.ended.1 = .refused → played.operated = (none, played.before))) ∧
    ∀ {ε : Type v} (course : Course.{0, v} UnreliableStore ε) (context : Context)
      (world : World UnreliableStore),
      (course.run context world).2.log =
        world.log ++ (course.played context world).flatMap Played.events := by
  refine ⟨?_, log_run⟩
  intro played
  obtain ⟨hlog, htold⟩ := played.told
  refine ⟨hlog, htold, htold.truthful, ?_⟩
  intro hrefused
  exact played.machine.operated_of_refused played.request played.operation played.before hrefused

end Course

end Lifecycle
