import Lifecycle.Proofs.Execution.Atomicity

/-!
# Executions within executions

An operation may start executions of its own, on the pending record or on any other one, and the
operations of these may start further ones. `Course` is such a tree of executions as data: what
comes next may depend on every answer so far, so that a failure within is ignored, handled or passed
on as its host likes. Every execution within passes on the context of the one around it, as it is or
marked as a recovery.

`Course.run` plays a course on a host, with `Machine.executeIn` for each of its executions. With an
observer, the calls of all operations in the tree are noted, and so is every save that the library
makes; what a host does by itself is not. Nothing changes by being observed: this is
`Course.run_unobserved`.
-/

namespace Lifecycle

/-! ### What an observer notes -/

/-- The host, with one more call noted. -/
def Observed.note (observed : Observed σ) (call : Observed.Call) : Observed σ :=
  { observed with calls := observed.calls ++ [call] }

namespace World

/-- The world in which an operation begins: its call is noted. -/
def begin (world : World (Observed σ)) (pending : Record) : World (Observed σ) :=
  { world with host := world.host.note (.operation pending) }

/-- The world after its host did something by itself, of which nothing is noted. -/
def unnoted (world : World (Observed σ)) (change : σ → σ) : World (Observed σ) :=
  { world with host := { world.host with host := change world.host.host } }

end World

/-! ### Courses -/

/-- Which context an operation passes on to an execution that it starts. -/
inductive Handover where
  /-- That of the execution around it. -/
  | same
  /-- That of the execution around it, marked as a recovery. -/
  | recovering
deriving DecidableEq, Repr

namespace Handover

/-- The context that is passed on, given that of the execution around it. -/
def context : Handover → Context → Context
  | same, around => around
  | recovering, around => around.recovering

theorem isRecovering_context {handover : Handover} {around : Context}
    (h : around.isRecovering = true) : (handover.context around).isRecovering = true := by
  cases handover with
  | same => exact h
  | recovering => rfl

end Handover

/-- What a host does from some point on, executions included, until it returns a record or fails. -/
inductive Course (σ : Type u) : Type v → Type (max u (v + 1)) where
  /-- The host returns a record, or fails. -/
  | finish {ε : Type v} (answer : Except ε Record) : Course σ ε
  /-- The host does something by itself, which may include calls of its store, and goes on with
  what it saw before. -/
  | work {ε : Type v} (change : σ → σ) (next : σ → Course σ ε) : Course σ ε
  /-- The host starts an execution, and goes on with its result. -/
  | execute {ε ε' : Type v} [OperationFault ε'] (machine : Machine) (handover : Handover)
      (record : Record) (transition : String) (target : State) (operation : Record → Course σ ε')
      (next : Except (ExecutionError ε') Record → Course σ ε) : Course σ ε

namespace Course

variable {σ : Type u} {ε : Type v}

/-- Play a course on a host, within a context. -/
def run [Host σ] {ε : Type v} : Course σ ε → Context → World σ → Except ε Record × World σ
  | finish answer, _, world => (answer, world)
  | work change next, context, world =>
    (next world.host).run context { world with host := change world.host }
  | @execute _ _ _ _ machine handover record transition target operation next, context, world =>
    let inner := handover.context context
    let (result, world) := machine.executeIn inner record transition target
      (fun pending world => (operation pending).run inner world) world
    -- the next execution is passed the context of this host again, not that of the last one
    (next result).run context world

/-- The course for an observed host. Operations note their call before anything else. -/
def observed {ε : Type v} : Course σ ε → Course (Observed σ) ε
  | finish answer => .finish answer
  | work change next =>
    .work (fun observed => { observed with host := change observed.host })
      fun observed => (next observed.host).observed
  | @execute _ _ _ _ machine handover record transition target operation next =>
    .execute machine handover record transition target
      (fun pending =>
        .work (fun host => host.note (.operation pending)) fun _ => (operation pending).observed)
      fun answer => (next answer).observed

variable [Host σ]

/-- What an execution within a course calls, in the context that it was passed. -/
def operationIn (operation : Record → Course σ ε) (context : Context) : Operation σ ε :=
  fun pending world => (operation pending).run context world

/-- What an observed execution within a course calls, in the context that it was passed. -/
def observedIn (operation : Record → Course σ ε) (context : Context) :
    Operation (Observed σ) ε :=
  fun pending world => (operation pending).observed.run context (world.begin pending)

theorem run_observed_work (change : σ → σ) (next : σ → Course σ ε) (context : Context)
    (world : World (Observed σ)) :
    (work change next).observed.run context world =
      (next world.host.host).observed.run context (world.unnoted change) := by
  simp only [observed, run]
  rfl

section Execute

variable {ε' : Type v} [OperationFault ε'] (machine : Machine) (handover : Handover)
  (record : Record) (transition : String) (target : State) (operation : Record → Course σ ε')
  (next : Except (ExecutionError ε') Record → Course σ ε) (context : Context)

theorem run_execute (world : World σ) :
    (execute machine handover record transition target operation next).run context world =
      let (result, after) := machine.executeIn (handover.context context) record transition target
        (operationIn operation (handover.context context)) world
      (next result).run context after := by
  simp only [run]
  rfl

theorem run_observed_execute (world : World (Observed σ)) :
    (execute machine handover record transition target operation next).observed.run context world =
      let (result, after) := machine.executeIn (handover.context context) record transition target
        (observedIn operation (handover.context context)) world
      (next result).observed.run context after := by
  simp only [observed, run]
  rfl

end Execute

/-- Observed or not, a course ends in the same way. -/
theorem run_unobserved (course : Course σ ε) (context : Context) (world : World (Observed σ)) :
    let (answer, after) := course.observed.run context world
    course.run context world.unobserved = (answer, after.unobserved) := by
  induction course generalizing context world with
  | finish answer => simp only [run, observed]
  | work change next ih =>
    rw [run_observed_work, run]
    exact ih world.host.host context (world.unnoted change)
  | execute machine handover record transition target operation next ihOperation ihNext =>
    -- an execution is mirrored where its operation is
    have hmirror : (observedIn operation (handover.context context)).Mirrors
        (operationIn operation (handover.context context)) := by
      intro pending world
      exact ihOperation pending (handover.context context) (world.begin pending)
    have hexecute := machine.executeIn_mirrored (handover.context context) record transition target
      hmirror world
    rw [run_execute, run_observed_execute, hexecute]
    exact ihNext _ context _

end Course

end Lifecycle
