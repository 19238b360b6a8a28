import Lifecycle.Proofs.Execution.Account
import Lifecycle.Proofs.Execution.Course
import Lifecycle.Proofs.Machine.Soundness

/-!
# Recovery is bounded

However deep executions are nested, and whatever fails in them, each of them attempts at most one
recovery, and none if it succeeds, is refused, or is part of a recovery. A recovery calls no
operation, and offers at most one record to the store.

While a course is played, every execution in it leaves an account. `Course.forest` is the forest of
these accounts, which has the shape of the course. By induction on the course, the accounts are
complete (`Course.grows_forest`), contexts are handed over as the course says
(`Course.within_forest`), and every execution is bounded (`Course.bounded_forest`).
-/

namespace Lifecycle

/-- The accounts of executions that were started one after the other within the same execution. For
each of them, there is what its host passed on to it, and the forest of those that it started. -/
inductive Forest where
  | empty
  | execution (handover : Handover) (account : Account) (inner rest : Forest)

namespace Forest

/-- All accounts, outer executions before inner ones. -/
def accounts : Forest → List Account
  | empty => []
  | execution _ account inner rest => account :: (inner.accounts ++ rest.accounts)

/-- The calls of which the accounts tell, in the order in which they were made. -/
def calls : Forest → List Observed.Call
  | empty => []
  | execution _ account inner rest =>
    account.pending.toList.map .operation ++ inner.calls ++ (account.commit ++ account.aftermath) ++
      rest.calls

/-- The events of which the accounts tell, in the order in which they were logged. -/
def events : Forest → List Event
  | empty => []
  | execution _ account inner rest => inner.events ++ account.events ++ rest.events

/-- Every execution has the context that was handed over to it. That of the host who starts the
executions is the same for each of them, whatever came of those before. -/
def Within (context : Context) : Forest → Prop
  | empty => True
  | execution handover account inner rest =>
    account.request.context = handover.context context ∧
      inner.Within account.request.context ∧ rest.Within context

theorem forall_mem_accounts {P : Account → Prop} {handover : Handover} {account : Account}
    {inner rest : Forest} :
    (∀ other ∈ (execution handover account inner rest).accounts, P other) ↔
      P account ∧ (∀ other ∈ inner.accounts, P other) ∧ ∀ other ∈ rest.accounts, P other := by
  rw [accounts, List.forall_mem_cons, List.forall_mem_append]

/-- Within a recovery, every execution is part of a recovery. -/
theorem Within.isRecovering {forest : Forest} {context : Context} (hwithin : forest.Within context)
    (hcontext : context.isRecovering = true) :
    ∀ account ∈ forest.accounts, account.request.context.isRecovering = true := by
  induction forest generalizing context with
  | empty => exact List.forall_mem_nil _
  | execution handover account inner rest ihInner ihRest =>
    obtain ⟨hpassed, hinner, hrest⟩ := hwithin
    -- the context that is passed on marks a recovery again, and so the operation is within one
    have hrecovering : account.request.context.isRecovering = true := by
      rw [hpassed]
      exact Handover.isRecovering_context hcontext
    exact forall_mem_accounts.mpr
      ⟨hrecovering, ihInner hinner hrecovering, ihRest hrest hcontext⟩

end Forest

namespace Course

variable {σ : Type u} {ε : Type v} [Host σ]

/-- The accounts of the executions in a course, played with an observer. -/
def forest {ε : Type v} : Course σ ε → Context → World (Observed σ) → Forest
  | finish _, _, _ => .empty
  | work change next, context, world =>
    (next world.host.host).forest context (world.unnoted change)
  | @execute _ _ _ _ machine handover record transition target operation next, context, world =>
    let request := { context := handover.context context, record, transition, target }
    let noted := observedIn operation request.context
    let (result, after) := machine.executeIn request.context record transition target noted world
    let inner :=
      match machine.prepare record transition target world.now with
      | .ok pending => (operation pending).forest request.context (world.begin pending)
      -- an operation that is not called starts no executions
      | .error _ => .empty
    .execution handover (machine.account request noted world) inner
      ((next result).forest context after)

section Execute

variable {ε' : Type v} (machine : Machine) (handover : Handover) (record : Record)
  (transition : String) (target : State) {operation : Record → Course σ ε'}
  (next : Except (ExecutionError ε') Record → Course σ ε) (context : Context)
  (world : World (Observed σ)) (request : Request)

/-- The accounts of the executions that the operation of an execution starts. -/
def inner (operation : Record → Course σ ε') : Forest :=
  match machine.prepare request.record request.transition request.target world.now with
  | .ok pending => (operation pending).forest request.context (world.begin pending)
  | .error _ => .empty

/-- What holds for the executions of every call holds for those of the operation. -/
theorem inner_induction {P : Forest → Prop} (hempty : P .empty)
    (hcalled : ∀ pending, P ((operation pending).forest request.context (world.begin pending))) :
    P (inner machine world request operation) := by
  unfold inner
  rcases machine.prepare request.record request.transition request.target world.now with
    rejected | pending
  · exact hempty
  · exact hcalled pending

variable [OperationFault ε']

theorem forest_execute :
    (execute machine handover record transition target operation next).forest context world =
      let request := { context := handover.context context, record, transition, target }
      let noted := observedIn operation request.context
      let (result, after) := machine.executeIn request.context record transition target noted world
      .execution handover (machine.account request noted world)
        (inner machine world request operation) ((next result).forest context after) := by
  simp only [forest]
  rfl

/-- Up to the end of its operation, an execution does what its account and the inner ones say. -/
theorem inner_grows
    (hcalled : ∀ pending, (world.begin pending).Grows
      (observedIn operation request.context pending world).2
      ((operation pending).forest request.context (world.begin pending)).calls
      ((operation pending).forest request.context (world.begin pending)).events) :
    let noted := observedIn operation request.context
    world.Grows (machine.operated request noted world).2
      ((machine.account request noted world).pending.toList.map .operation ++
        (inner machine world request operation).calls)
      (inner machine world request operation).events := by
  simp only [inner, Machine.operated, Machine.account]
  rcases machine.prepare request.record request.transition request.target world.now with
    rejected | pending
  · exact .refl world
  · have hbegin : world.Grows (world.begin pending) [.operation pending] [] :=
      ⟨rfl, by simp [World.begin]⟩
    exact hbegin.trans (hcalled pending)

end Execute

/-- Whatever the library called and logged while a course was played is in the accounts. -/
theorem grows_forest (course : Course σ ε) (context : Context) (world : World (Observed σ)) :
    world.Grows (course.observed.run context world).2 (course.forest context world).calls
      (course.forest context world).events := by
  induction course generalizing context world with
  | finish answer =>
    simp only [observed, run, forest]
    exact .refl world
  | work change next ih =>
    rw [run_observed_work, forest]
    -- what the host did by itself was not noted
    obtain ⟨hcalls, hlog⟩ := ih world.host.host context (world.unnoted change)
    exact ⟨hcalls, hlog⟩
  | execute machine handover record transition target operation next ihOperation ihNext =>
    rw [run_observed_execute, forest_execute]
    let request : Request := { context := handover.context context, record, transition, target }
    -- first the operation with the executions within, then the rest of the execution, and then what
    -- its host does next, by induction
    have hinner := inner_grows machine world request fun pending =>
      ihOperation pending request.context (world.begin pending)
    have houter := machine.account_grows request (observedIn operation request.context) world
    exact (hinner.trans houter).trans (ihNext _ context _)

/-- Contexts are handed over as the course says, and that of a host never changes. -/
theorem within_forest (course : Course σ ε) (context : Context) (world : World (Observed σ)) :
    (course.forest context world).Within context := by
  induction course generalizing context world with
  | finish answer =>
    rw [forest]
    trivial
  | work change next ih =>
    rw [forest]
    exact ih world.host.host context (world.unnoted change)
  | execute machine handover record transition target operation next ihOperation ihNext =>
    rw [forest_execute]
    refine ⟨rfl, inner_induction machine world _ ?_ ?_, ihNext _ context _⟩
    · trivial
    · intro pending
      exact ihOperation pending (handover.context context) (world.begin pending)

/-- Every execution in a course is bounded. -/
theorem bounded_forest (course : Course σ ε) (context : Context) (world : World (Observed σ)) :
    ∀ account ∈ (course.forest context world).accounts, account.Bounded := by
  induction course generalizing context world with
  | finish answer =>
    rw [forest]
    exact List.forall_mem_nil _
  | work change next ih =>
    rw [forest]
    exact ih world.host.host context (world.unnoted change)
  | execute machine handover record transition target operation next ihOperation ihNext =>
    rw [forest_execute]
    refine Forest.forall_mem_accounts.mpr ⟨machine.bounded_account .., ?_, ihNext _ context _⟩
    refine inner_induction (P := fun forest => ∀ account ∈ forest.accounts, account.Bounded)
      machine world _ ?_ ?_
    · exact List.forall_mem_nil _
    · intro pending
      exact ihOperation pending (handover.context context) (world.begin pending)

/-- Recovery is bounded over nested executions. Observing a course changes nothing, and whatever the
library did in it is in the accounts. By these, every execution has the context that was handed over
to it, and attempts one recovery at most, which calls no operation and offers one record at most.
Within a recovery, nothing attempts a recovery, offers anything but what an operation returned, or
writes a step of a recovery. -/
theorem recovery_bounded (course : Course σ ε) (context : Context) (world : World (Observed σ)) :
    let ended := course.observed.run context world
    let forest := course.forest context world
    course.run context world.unobserved = (ended.1, ended.2.unobserved) ∧
      world.Grows ended.2 forest.calls forest.events ∧
      forest.Within context ∧ (∀ account ∈ forest.accounts, account.Bounded) ∧
      (context.isRecovering = true → ∀ account ∈ forest.accounts,
        account.attempts = 0 ∧ account.aftermath = [] ∧
          ∀ step ∈ account.written, step.recovery = false) := by
  intro ended forest
  have hwithin : forest.Within context := course.within_forest context world
  have hbounded := course.bounded_forest context world
  refine ⟨course.run_unobserved context world, course.grows_forest context world, hwithin, hbounded,
    ?_⟩
  intro hcontext account haccount
  exact (hbounded account haccount).quiet_of_recovering
    (hwithin.isRecovering hcontext account haccount)

/-- An operation ignores two failures within, of which only the first one is outside a recovery, and
then fails itself. -/
theorem recovery_bounded_delivery :
    let first := { Record.create Machine.delivery (.ofNat 1) with version := 1 }
    let second := { Record.create Machine.delivery (.ofNat 2) with version := 1 }
    let world : World (Observed UnreliableStore) :=
      { host := { host := { memory := (Store.empty.put first).put second } } }
    let failing : Course UnreliableStore StoreError := .finish (.error (.unavailable "disk full"))
    let confirm (handover : Handover) (record : Record)
        (operation next : Course UnreliableStore StoreError) :
        Course UnreliableStore StoreError :=
      .execute Machine.delivery handover record "confirm" ⟨"confirmed"⟩ (fun _ => operation)
        fun _ => next
    let course := confirm .same first
      (confirm .same second failing (confirm .recovering second failing failing)) failing
    (course.forest .root world).accounts.map Account.attempts = [1, 1, 0] ∧
      Context.root.recovering.isRecovering = true ∧
      ∀ account ∈ (course.forest Context.root.recovering world).accounts, account.attempts = 0 := by
  intro first second world failing confirm course
  have hrecovering : Context.root.recovering.isRecovering = true := rfl
  refine ⟨by decide, hrecovering, fun account haccount => ?_⟩
  have hbounded := recovery_bounded course Context.root.recovering world
  exact (hbounded.2.2.2.2 hrecovering account haccount).1

end Course

end Lifecycle
