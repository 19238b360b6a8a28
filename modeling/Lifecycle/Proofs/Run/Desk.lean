import Lifecycle.Binary.Snapshot
import Lifecycle.Document.Snapshot
import Lifecycle.Execution
import Lifecycle.Store.Outage
import Mathlib.Algebra.Group.Nat.Defs
import Mathlib.Logic.Relation

/-!
# Runs of a host

A host works on copies of records at its desk, next to a store that may fail and a clock. It may
make records out of the copies it has, save and load them, deal with failures, and execute
transitions, on any number of records and in any order. While an operation runs, the host goes on
working at the same desk, so that executions may be nested to any depth.

A copy is never taken away. A host may keep a copy of whatever it had, and one that it does not use
any more does no harm.
-/

namespace Lifecycle

open Time (Instant)

namespace RecoveryOutcome

/-- The record that was taken to the error state and stored. -/
def record? : RecoveryOutcome → Option Record
  | recovered record => some record
  | _ => none

end RecoveryOutcome

/-- The records that a host can make of the copies it has, without any effect. No record comes from
a foreign document: only a snapshot that was just taken is restored. -/
inductive Made (machine : Machine) (copies : List Record) (now : Instant) : Record → Prop where
  /-- A record in the default initial state. -/
  | create (id : Uuid) : Made machine copies now (.create machine id)
  /-- A record in a chosen initial state. -/
  | createIn {id : Uuid} {state : State} {record : Record}
      (hcreated : Record.createIn machine id state = .ok record) : Made machine copies now record
  /-- A copy with an attribute written. -/
  | setAttribute {record : Record} (hrecord : record ∈ copies) (name text : String) :
      Made machine copies now (record.setAttribute name text)
  /-- The pending record of a transition, which was not saved. -/
  | prepare {record pending : Record} {transition : String} {target : State}
      (hrecord : record ∈ copies)
      (hprepare : machine.prepare record transition target now = .ok pending) :
      Made machine copies now pending
  /-- A copy, restored from its snapshot as a document. -/
  | ofText {record : Record} {snapshot : Snapshot} {takenAt : Instant} (hrecord : record ∈ copies)
      (hread : Snapshot.ofText (Snapshot.take record takenAt).toText = .ok snapshot) :
      Made machine copies now snapshot.record
  /-- A copy, restored from its snapshot as bytes. There are at most as many bytes as a machine word
  can count. -/
  | ofBytes {record : Record} {snapshot : Snapshot} {takenAt : Instant} (hrecord : record ∈ copies)
      (hlength : (Snapshot.take record takenAt).toBytes.length < 2 ^ 64)
      (hread : Snapshot.ofBytes (Snapshot.take record takenAt).toBytes = .ok snapshot) :
      Made machine copies now snapshot.record

/-- The copies at hand, and the world around them. -/
structure Desk where
  /-- The copies that the host has. -/
  copies : List Record := []
  /-- The store, the clock and the log. -/
  world : World UnreliableStore

namespace Desk

/-- The store of the host. -/
def store (desk : Desk) : UnreliableStore :=
  desk.world.host

/-- What is stored under an identifier. -/
def stored? (desk : Desk) (id : Uuid) : Option Record :=
  desk.store.memory.get? id

/-- The host keeps one more copy. -/
def hold (desk : Desk) (record : Record) : Desk :=
  { desk with copies := record :: desk.copies }

/-- The host keeps the copy that a call returned, if it returned one, and goes on in the world that
the call left. -/
def receive (desk : Desk) (answer : Option Record) (world : World UnreliableStore) : Desk where
  copies := answer.toList ++ desk.copies
  world := world

/-- The clock shows another time. -/
def wait (desk : Desk) (time : Instant) : Desk :=
  { desk with world := { desk.world with host := { desk.world.host with clock := time } } }

/-- No copy was made yet, nothing is stored, and nothing was saved. The store may fail in any
way. -/
structure IsFresh (desk : Desk) : Prop where
  /-- There are no copies. -/
  copies_eq : desk.copies = []
  /-- The store is empty. -/
  memory_eq : desk.store.memory = .empty
  /-- No record was offered to the store yet. -/
  calls_eq : desk.store.saves.calls = 0

/-- One call, other than an execution, that does not make a record. -/
inductive Call (machine : Machine) : Desk → Desk → Prop where
  /-- A copy is offered to the store. -/
  | save {desk : Desk} {record : Record} {answer : Except StoreError Record}
      {after : World UnreliableStore} (hrecord : record ∈ desk.copies)
      (hsave : desk.world.save record = (answer, after)) :
      Call machine desk (desk.receive answer.toOption after)
  /-- A record is loaded. -/
  | load {desk : Desk} {id : Uuid} {answer : Except StoreError Record}
      {after : World UnreliableStore} (hload : desk.world.load id = (answer, after)) :
      Call machine desk (desk.receive answer.toOption after)
  /-- A failure is dealt with, whatever failed. -/
  | onFailure {ε : Type} [Fault ε] {desk : Desk} {context : Context} {record : Record}
      {failedTarget : State} {error : ε} {outcome : RecoveryOutcome}
      {after : World UnreliableStore} (hrecord : record ∈ desk.copies)
      (hends : machine.onFailure context record failedTarget error desk.world = (outcome, after)) :
      Call machine desk (desk.receive outcome.record? after)
  /-- Time passes. -/
  | wait {desk : Desk} (time : Instant) : Call machine desk (desk.wait time)

/-- One step of a run that does not make a record. What an operation may return, given the pending
record and the desk at which it ends, is a parameter. -/
inductive Act (machine : Machine) (Returns : Record → Desk → Record → Prop) :
    Desk → Desk → Prop where
  /-- A call other than an execution. -/
  | call {desk after : Desk} (hcall : Call machine desk after) : Act machine Returns desk after
  /-- An execution that is refused before its operation runs. -/
  | refuse {ε : Type} [OperationFault ε] {desk : Desk} {context : Context} {record : Record}
      {transition : String} {target : State} {operation : Operation UnreliableStore ε}
      {answer : Except (ExecutionError ε) Record} {after : World UnreliableStore}
      (hrecord : record ∈ desk.copies)
      (hedge : machine.target? record.state transition ≠ some target)
      (hends : machine.executeIn context record transition target operation desk.world =
        (answer, after)) :
      Act machine Returns desk (desk.receive answer.toOption after)
  /-- The end of an execution. It began in an earlier world, and its operation has gone on until
  now, with any steps in between: all that is left of them is that the host still has the record and
  the pending one. -/
  | conclude {ε : Type} [OperationFault ε] {desk : Desk} {earlier after : World UnreliableStore}
      {context : Context} {record pending : Record} {transition : String} {target : State}
      {operation : Operation UnreliableStore ε} {answer : Except (ExecutionError ε) Record}
      (hrecord : record ∈ desk.copies) (hpending : pending ∈ desk.copies)
      (hprepare : machine.prepare record transition target earlier.now = .ok pending)
      (hworld : (operation pending earlier).2 = desk.world)
      (hreturns : ∀ changed, (operation pending earlier).1 = .ok changed →
        Returns pending desk changed)
      (hends : machine.executeIn context record transition target operation earlier =
        (answer, after)) :
      Act machine Returns desk (desk.receive answer.toOption after)

/-- One step of a run. An execution whose operation runs is not one step but several: the host
prepares the pending record, takes any steps while the operation runs, and then the execution is
concluded. So the steps of nested executions are steps of the run as well. -/
inductive Step (machine : Machine) (Returns : Record → Desk → Record → Prop) :
    Desk → Desk → Prop where
  /-- A record is made of the copies. -/
  | make {desk : Desk} {record : Record}
      (hmade : Made machine desk.copies desk.world.now record) :
      Step machine Returns desk (desk.hold record)
  /-- Anything else is done. -/
  | act {desk after : Desk} (hact : Act machine Returns desk after) :
      Step machine Returns desk after

/-- From one desk, a host can reach another by steps. -/
def Reaches (machine : Machine) (Returns : Record → Desk → Record → Prop) : Desk → Desk → Prop :=
  Relation.ReflTransGen (Step machine Returns)

end Desk

end Lifecycle
