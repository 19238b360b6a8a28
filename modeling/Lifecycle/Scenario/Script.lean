import Lifecycle.Execution
import Lifecycle.Store.Outage

/-!
# Scripted operations

Operations given as data, for a host that plays through a scenario. A script may fail, interfere
with the stored record, or start executions of its own, whose operations are scripts again. Every
script that begins leaves a call behind, so that the order of operations can be seen afterwards.
-/

namespace Lifecycle

namespace Scenario

/-- The errors of a host that starts executions within its operations. -/
inductive HostError where
  /-- The operation failed, for these causes. -/
  | failed (message : String) (causes : List String)
  /-- An execution within the operation did not commit. -/
  | nested (error : ExecutionError HostError)
  /-- The store failed. -/
  | store (error : StoreError)

namespace HostError

/-- The error as it is seen from outside. The failure of an inner execution is a cause of its own,
ahead of the error of its operation and of whatever caused that. -/
def asCause : HostError → Cause
  | failed message causes => .ofTexts message causes
  | nested (.invalidTransition rejected) =>
    .because ("nested: " ++ rejected.message) (.root rejected.message)
  | nested (.operationFailure transition error) =>
    let failure := "Transition '" ++ transition ++ "' failed: " ++ error.asCause.message
    .because ("nested: " ++ failure) (.because failure error.asCause)
  | store error => .root error.message

instance : OperationFault HostError where
  message error := error.asCause.message
  source? error := error.asCause.source?
  ofStore := store

end HostError

/-- A script that began, and the record that was pending then. -/
structure Call where
  /-- The kind of script. -/
  kind : String
  /-- The state of the pending record. -/
  state : State
  /-- The version of the pending record. -/
  version : UInt64
deriving DecidableEq, Repr

/-- The host of a scenario: its store, and the calls of scripts so far. -/
structure Stage where
  /-- The store. -/
  store : UnreliableStore := {}
  /-- The calls so far, oldest first. -/
  calls : List Call := []

instance : Host Stage where
  now stage := Host.now stage.store
  load id stage :=
    let (answer, store) := Host.load id stage.store
    (answer, { stage with store })
  save record stage :=
    let (answer, store) := Host.save record stage.store
    (answer, { stage with store })

/-- The context in which a script starts an execution. -/
inductive Scope where
  /-- That of the execution around it. -/
  | same
  /-- That of the execution around it, marked as a recovery. -/
  | recovering
  /-- A new one. -/
  | fresh
deriving DecidableEq, Repr

namespace Scope

/-- The context, given that of the execution around it. -/
def context : Scope → Context → Context
  | same, around => around
  | recovering, around => around.recovering
  | fresh, _ => .root

end Scope

/-- An operation as data. Other records than the pending one are of type `ρ`: their names before
the scenario is played, and the records themselves then. -/
inductive Script (ρ : Type) where
  /-- Return the pending record. -/
  | unchanged
  /-- Write attributes. -/
  | set (attributes : List (String × String))
  /-- Fail, for these causes. -/
  | fail (message : String) (causes : List String)
  /-- Fail as if the store did not answer. -/
  | unavailable (reason : String)
  /-- Return another record. -/
  | replace (record : ρ)
  /-- Save the pending record and return the stored copy. -/
  | save
  /-- Save another record, and return the pending one. -/
  | interfere (record : ρ)
  /-- Execute a transition on the pending record, or on another one. A failure may be ignored; the
  pending record is returned then, and also after a transition of another record. -/
  | nested (transition : String) (target : State) (operation : Script ρ) (scope : Scope)
      (record : Option ρ) (ignoreFailure : Bool)
deriving Repr

namespace Script

/-- The kind of a script. -/
def kind : Script ρ → String
  | unchanged => "unchanged"
  | set _ => "set"
  | fail _ _ => "fail"
  | unavailable _ => "unavailable"
  | replace _ => "replace"
  | save => "save"
  | interfere _ => "interfere"
  | nested .. => "nested"

/-- The script with its names looked up, absent when one of them is unknown. -/
def lookUp? (find? : String → Option ρ) : Script String → Option (Script ρ)
  | unchanged => some unchanged
  | set attributes => some (set attributes)
  | fail message causes => some (fail message causes)
  | unavailable reason => some (unavailable reason)
  | replace record => (find? record).map replace
  | save => some save
  | interfere record => (find? record).map interfere
  | nested transition target operation scope record ignoreFailure => do
    let operation ← operation.lookUp? find?
    let record ← match record with
      | some name => (find? name).map some
      | none => some none
    return nested transition target operation scope record ignoreFailure

/-- Note that a script begins. -/
def note (script : Script ρ) (pending : Record) (world : World Stage) : World Stage :=
  let call : Call := { kind := script.kind, state := pending.state, version := pending.version }
  { world with host := { world.host with calls := world.host.calls ++ [call] } }

/-- An answer of the store as the result of an operation. -/
def ofStore (answer : Except StoreError Record) : Except HostError Record :=
  answer.mapError .store

/-- What a script does after its call is noted. -/
def act (machine : Machine) : Script Record → Context → Operation Stage HostError
  | unchanged, _, pending, world => (.ok pending, world)
  | set attributes, _, pending, world => (.ok (pending.setAttributes attributes), world)
  | fail message causes, _, _, world => (.error (.failed message causes), world)
  | unavailable reason, _, _, world => (.error (.store (.unavailable reason)), world)
  | replace record, _, _, world => (.ok record, world)
  | save, _, pending, world =>
    let (answer, world) := world.save pending
    (ofStore answer, world)
  | interfere record, _, pending, world =>
    let (answer, world) := world.save record
    ((ofStore answer).map fun _ => pending, world)
  | nested transition target operation scope record ignoreFailure, around, pending, world =>
    let context := scope.context around
    let inner : Operation Stage HostError := fun pending world =>
      act machine operation context pending (operation.note pending world)
    -- a transition of another record leaves the pending one as it is
    match machine.executeIn context (record.getD pending) transition target inner world with
    | (.ok stored, world) => (.ok (if record.isSome then pending else stored), world)
    | (.error error, world) =>
      (if ignoreFailure then .ok pending else .error (.nested error), world)

/-- The operation that a script describes, within an execution of the given context. -/
def operation (machine : Machine) (script : Script Record) (context : Context) :
    Operation Stage HostError :=
  fun pending world => script.act machine context pending (script.note pending world)

end Script

end Scenario

end Lifecycle
