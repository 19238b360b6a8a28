import Lifecycle.Execution.World

/-!
# Outages

A store that does not always answer. Its plan says of every call whether the call reaches the store
behind it or fails, and with what words. With a clock beside it, such a store is a host for
executions.
-/

namespace Lifecycle

open Time (Instant)

/-- Which of the coming calls fail: by default none. -/
structure Outages where
  /-- The words with which a call fails, if it does. Calls are counted from zero. -/
  plan : Nat → Option String := fun _ => none
  /-- How many calls there have been. -/
  calls : Nat := 0

namespace Outages

/-- A plan in which the next `count` calls fail. -/
def next (count : Nat) (reason : String) : Outages where
  plan call := if call < count then some reason else none

/-- The words with which the next call fails, if it does. -/
def failure? (outages : Outages) : Option String :=
  outages.plan outages.calls

/-- The outages that are left after a call, whether it failed or not. -/
def advance (outages : Outages) : Outages :=
  { outages with calls := outages.calls + 1 }

end Outages

/-- A store behind planned outages, and a clock. -/
structure UnreliableStore where
  /-- The store behind the outages. -/
  memory : Store := .empty
  /-- Which saves fail. -/
  saves : Outages := {}
  /-- Which loads fail. -/
  loads : Outages := {}
  /-- What the clock shows. -/
  clock : Instant := .epoch

namespace UnreliableStore

/-- Load a record, unless the call is planned to fail. -/
def load (id : Uuid) (store : UnreliableStore) :
    Except StoreError Record × UnreliableStore :=
  let after := { store with loads := store.loads.advance }
  match store.loads.failure? with
  | some reason => (.error (.unavailable reason), after)
  | none => (store.memory.load id, after)

/-- Save a record, unless the call is planned to fail. -/
def save (record : Record) (store : UnreliableStore) :
    Except StoreError Record × UnreliableStore :=
  let after := { store with saves := store.saves.advance }
  match store.saves.failure? with
  | some reason => (.error (.unavailable reason), after)
  | none =>
    let (answer, memory) := store.memory.save record
    (answer, { after with memory })

instance : Host UnreliableStore where
  now := clock
  load := load
  save := save

end UnreliableStore

end Lifecycle
