import Lifecycle.Proofs.Execution.Outcome
import Lifecycle.Proofs.Machine.Soundness
import Lifecycle.Proofs.Store.Saving

/-!
# What a reported success means

The state moves on the pending record, before the operation runs, and the commit saves whatever
record the operation hands back. So a success says as much about the record of the execution as the
operation left of the pending record.

- `Machine.performed_of_success`: success means that the requested transition was performed and is
  stored, exactly where the operation hands back a version of the pending record;
- `Machine.not_performed_of_replaced`: an operation may hand back another record, which is then
  stored and returned although it never moved.
-/

namespace Lifecycle

open Time (Instant)

namespace Record

/-- The record is a version of another one, up to its attributes and its earlier history. -/
structure Versions (changed pending : Record) : Prop where
  id_eq : changed.id = pending.id
  state_eq : changed.state = pending.state
  last_eq : changed.history.last? = pending.history.last?

theorem last?_apply (record : Record) (transition : String) (target : State) (recovery : Bool)
    (time : Instant) :
    (record.apply transition target recovery time).history.last? =
      some { transition, origin := record.state, target, time, recovery } :=
  History.last?_record ..

end Record

namespace Machine

/-- The requested transition was performed on the record, and the store has the result. -/
structure Performed (record : Record) (transition : String) (target : State) (time : Instant)
    (stored : Record) (memory : Store) : Prop where
  id_eq : stored.id = record.id
  state_eq : stored.state = target
  last_eq : stored.history.last? =
    some { transition, origin := record.state, target, time, recovery := false }
  get?_eq : memory.get? record.id = some stored

variable {ε : Type v} [OperationFault ε] {machine : Machine} {context : Context}
  {record stored : Record} {transition : String} {target : State}
  {operation : Operation UnreliableStore ε} {world after : World UnreliableStore}

/-- A successful execution returns what its operation handed back, under the next version, and the
store has this copy under its identifier. -/
theorem committed_of_success
    (hends : machine.executeIn context record transition target operation world =
      (.ok stored, after)) :
    machine.target? record.state transition = some target ∧ ∃ changed,
      (operation (record.apply transition target false world.now) world).1 = .ok changed ∧
        stored = changed.withVersion (changed.version + 1) ∧
          after.host.memory.get? stored.id = some stored := by
  have hexecutes := executes_executeIn machine context record transition target operation world
  rw [hends] at hexecutes
  cases hexecutes with
  | @committed changed stored inner saved hedge hoperation hsave =>
    obtain ⟨-, rfl, hafter⟩ := UnreliableStore.save_eq_ok (World.save_host hsave)
    refine ⟨hedge, changed, by rw [hoperation], rfl, ?_⟩
    change saved.host.memory.get? changed.id = _
    rw [hafter]
    exact Store.get?_put_self ..

/-- A reported success performed the requested transition, exactly if the operation handed back a
version of the pending record. In any case the result is what the operation handed back, under the
next version, and the store has it under its identifier. -/
theorem performed_of_success (machine : Machine) (context : Context) (record : Record)
    (transition : String) (target : State) (operation : Operation UnreliableStore ε)
    (world : World UnreliableStore) (stored : Record) (after : World UnreliableStore)
    (hends : machine.executeIn context record transition target operation world =
        (.ok stored, after) ∨
      machine.execute record transition target operation world = (.ok stored, after)) :
    machine.target? record.state transition = some target ∧ ∃ changed,
      (operation (record.apply transition target false world.now) world).1 = .ok changed ∧
        stored = changed.withVersion (changed.version + 1) ∧
        after.host.memory.get? stored.id = some stored ∧
        (Performed record transition target world.now stored after.host.memory ↔
          changed.Versions (record.apply transition target false world.now)) := by
  -- an execution that nothing surrounds is one in the root context
  obtain ⟨around, hends⟩ : ∃ around : Context,
      machine.executeIn around record transition target operation world = (.ok stored, after) := by
    rcases hends with hends | hends
    · exact ⟨context, hends⟩
    · exact ⟨.root, hends⟩
  obtain ⟨hedge, changed, hanswer, rfl, hget⟩ := committed_of_success hends
  refine ⟨hedge, changed, hanswer, rfl, hget, ?_⟩
  -- a new version changes neither the identifier nor the state nor the history
  have hlast_iff : (changed.withVersion (changed.version + 1)).history.last? =
        some { transition, origin := record.state, target, time := world.now, recovery := false } ↔
      changed.history.last? = (record.apply transition target false world.now).history.last? := by
    rw [Record.last?_apply]
    rfl
  constructor
  · rintro ⟨hid, hstate, hlast, -⟩
    exact ⟨hid, hstate, hlast_iff.mp hlast⟩
  · rintro ⟨hid, hstate, hlast⟩
    have hid' : (changed.withVersion (changed.version + 1)).id = record.id := hid
    refine ⟨hid', hstate, hlast_iff.mpr hlast, ?_⟩
    rwa [← hid']

/-- A delivery is confirmed with a courier: the success is that of the requested transition. -/
theorem performed_of_success_delivery :
    let record := { Record.create delivery (.ofNat 1) with version := 1 }
    let world : World UnreliableStore := { host := { memory := Store.empty.put record } }
    let operation : Operation UnreliableStore StoreError := fun pending world =>
      (.ok (pending.setAttribute "courier" "anna"), world)
    let ending := delivery.executeIn .root record "confirm" ⟨"confirmed"⟩ operation world
    ∃ stored, ending.1 = .ok stored ∧
      Performed record "confirm" ⟨"confirmed"⟩ world.now stored ending.2.host.memory := by
  intro record world operation ending
  obtain ⟨stored, hstored⟩ : ∃ stored, ending.1 = .ok stored := ⟨_, rfl⟩
  have hends : ending = (.ok stored, ending.2) := by rw [← hstored]
  obtain ⟨-, changed, hanswer, -, -, hperformed⟩ := performed_of_success delivery .root record
    "confirm" ⟨"confirmed"⟩ operation world stored ending.2 (.inl hends)
  refine ⟨stored, hstored, hperformed.mpr ?_⟩
  rw [← Except.ok.inj hanswer]
  exact ⟨rfl, rfl, rfl⟩

/-- An operation hands back another record than the pending one. The execution succeeds and returns
this record, which never moved, while the stored copy of its own record stays as it was. -/
theorem not_performed_of_replaced :
    let record := { Record.create delivery (.ofNat 1) with version := 1 }
    let other := Record.create delivery (.ofNat 2)
    let world : World UnreliableStore := { host := { memory := Store.empty.put record } }
    let operation : Operation UnreliableStore StoreError := fun _ world => (.ok other, world)
    let ending := delivery.executeIn .root record "confirm" ⟨"confirmed"⟩ operation world
    let stored := other.withVersion 1
    ending.1 = .ok stored ∧ stored.id ≠ record.id ∧ stored.state ≠ ⟨"confirmed"⟩ ∧
      stored.history.last? = none ∧ ending.2.host.memory.get? record.id = some record ∧
      ¬ Performed record "confirm" ⟨"confirmed"⟩ world.now stored ending.2.host.memory := by
  intro record other world operation ending stored
  have hid : stored.id ≠ record.id := by decide
  refine ⟨rfl, hid, by decide, rfl, rfl, ?_⟩
  intro hperformed
  exact hid hperformed.id_eq

end Machine

end Lifecycle
