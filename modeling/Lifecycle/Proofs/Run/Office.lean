import Lifecycle.Proofs.Execution.Phases
import Lifecycle.Proofs.Run.Desk
import Lifecycle.Proofs.Store.Ledger

/-!
# Executions side by side

At an office, any number of executions are under way at once, next to plain saves and loads, all on
one store that may fail. Each execution takes one step at a time, in any order: its operation ends,
its commit is offered to the store, its recovery is offered to the store. The operations set
attributes on their pending records and leave the store alone.

The store keeps a ledger of all records that were offered to it, and every execution remembers which
offers were its own.
-/

namespace Lifecycle

open Time (Instant)

/-- An execution that is under way, or that was. -/
structure Execution where
  /-- The errors of its operation. -/
  ε : Type
  /-- They are errors of operations. -/
  fault : OperationFault ε
  /-- What was asked. -/
  request : Request
  /-- How far it has come. -/
  phase : Phase ε
  /-- What its commit offered to the store. -/
  commits : List Offer := []
  /-- What its recovery offered to the store. -/
  recoveries : List Offer := []

namespace Execution

/-- The operation ends with an answer. -/
def answered (execution : Execution) (answer : Except execution.ε Record) (world : World Ledger) :
    Execution × World Ledger :=
  let _ := execution.fault
  let (phase, after) := execution.request.answered answer world
  ({ execution with phase }, after)

/-- The execution takes its next step on the store, if there is one. -/
def advance (machine : Machine) (execution : Execution) (world : World Ledger) :
    Execution × World Ledger :=
  let _ := execution.fault
  let (phase, after) := machine.advance execution.request execution.phase world
  let offers := after.host.since world.host
  match execution.phase with
  | .committing _ => ({ execution with phase, commits := execution.commits ++ offers }, after)
  | _ => ({ execution with phase, recoveries := execution.recoveries ++ offers }, after)

end Execution

/-- Copies of records, executions on them, and the world around. -/
structure Office where
  /-- The copies of records at hand. -/
  copies : List Record := []
  /-- All executions so far. -/
  executions : List Execution := []
  /-- The store with its ledger, the clock and the log. -/
  world : World Ledger

namespace Office

/-- The store with its ledger. -/
def ledger (office : Office) : Ledger :=
  office.world.host

/-- No copy was made, no execution was started, nothing is stored and nothing was offered. The store
may fail in any way. -/
structure IsFresh (office : Office) : Prop where
  /-- There are no copies. -/
  copies_eq : office.copies = []
  /-- There are no executions. -/
  executions_eq : office.executions = []
  /-- The store is empty. -/
  memory_eq : office.ledger.memory = .empty
  /-- The ledger is empty. -/
  offers_eq : office.ledger.offers = []

/-- One step, of any of those at work. -/
inductive Step (machine : Machine) : Office → Office → Prop where
  /-- A record is made of the copies. -/
  | make {copies : List Record} {executions : List Execution} {world : World Ledger}
      {record : Record} (hmade : Made machine copies world.now record) :
      Step machine { copies, executions, world } { copies := record :: copies, executions, world }
  /-- A copy is offered to the store, and its answer is one more copy. -/
  | save {copies : List Record} {executions : List Execution} {world after : World Ledger}
      {record : Record} {answer : Except StoreError Record} (hrecord : record ∈ copies)
      (hsave : world.save record = (answer, after)) :
      Step machine { copies, executions, world }
        { copies := answer.toOption.toList ++ copies, executions, world := after }
  /-- A record is loaded. -/
  | load {copies : List Record} {executions : List Execution} {world after : World Ledger}
      {id : Uuid} {answer : Except StoreError Record} (hload : world.load id = (answer, after)) :
      Step machine { copies, executions, world }
        { copies := answer.toOption.toList ++ copies, executions, world := after }
  /-- An execution is started on a copy. -/
  | start {ε : Type} [OperationFault ε] {copies : List Record} {executions : List Execution}
      {world after : World Ledger} {request : Request} {phase : Phase ε}
      (hrecord : request.record ∈ copies) (hstart : machine.start request world = (phase, after)) :
      Step machine { copies, executions, world }
        { copies
          executions := executions ++ [{ ε, fault := inferInstance, request, phase }]
          world := after }
  /-- The operation of an execution ends. It has set attributes on the pending record, or failed. -/
  | answer {copies : List Record} {earlier later : List Execution} {execution next : Execution}
      {world after : World Ledger} {pending : Record}
      (hphase : execution.phase = .operating pending)
      (answer : Except execution.ε (List (String × String)))
      (hanswered : execution.answered (answer.map pending.setAttributes) world = (next, after)) :
      Step machine { copies, executions := earlier ++ execution :: later, world }
        { copies, executions := earlier ++ next :: later, world := after }
  /-- An execution takes its next step on the store, and its result is one more copy. -/
  | advance {copies : List Record} {earlier later : List Execution} {execution next : Execution}
      {world after : World Ledger} (hadvance : execution.advance machine world = (next, after)) :
      Step machine { copies, executions := earlier ++ execution :: later, world }
        { copies := next.phase.returned?.toList ++ copies
          executions := earlier ++ next :: later
          world := after }
  /-- Time passes. -/
  | wait {copies : List Record} {executions : List Execution} {world : World Ledger}
      (clock : Instant) :
      Step machine { copies, executions, world }
        { copies
          executions
          world :=
            { world with
              host := { world.host with store := { world.host.store with clock } } } }

/-- From one office, another is reached by steps. -/
def Reaches (machine : Machine) : Office → Office → Prop :=
  Relation.ReflTransGen (Step machine)

end Office

end Lifecycle
