import Lifecycle.Machine
import Lifecycle.Record.Attributes
import Lifecycle.Record.History
import Lifecycle.Uuid

/-!
# Records

A record is governed by a machine. It carries its current state, attributes that operations
write, the history of what was applied to it, and the version under which it is stored. The state
changes together with the history, and only through `Record.apply`.
-/

namespace Lifecycle

open Time (Instant)

/-- A record governed by a machine. -/
structure Record where
  /-- The identifier. -/
  id : Uuid
  /-- The current state. -/
  state : State
  /-- Texts that operations write. -/
  attributes : Attributes
  /-- What was applied to the record. -/
  history : History
  /-- The version under which the record is stored, zero when it never was. -/
  version : UInt64
deriving DecidableEq, Repr

/-- A record cannot be created in a state that is not initial. -/
structure InvalidInitialState where
  /-- The state that was asked for. -/
  state : State
  /-- The initial states. -/
  allowed : List State
deriving DecidableEq, Repr

namespace InvalidInitialState

/-- The error in words. -/
def message (error : InvalidInitialState) : String :=
  "State '" ++ error.state.name ++ "' is not an initial state (allowed: " ++
    State.listing error.allowed ++ ")"

end InvalidInitialState

namespace Record

/-- The attribute that holds the report on the failure before the last recovery. -/
def errorAttribute : String := "error"

/-- The attribute that holds the state to which the transition was heading that failed. -/
def errorStateAttribute : String := "error_state"

/-- A record without a past. -/
def inState (id : Uuid) (state : State) : Record where
  id := id
  state := state
  attributes := .empty
  history := .empty
  version := 0

/-- Create a record in the default initial state. -/
def create (machine : Machine) (id : Uuid) : Record :=
  inState id machine.defaultInitialState

/-- Create a record in a chosen initial state. -/
def createIn (machine : Machine) (id : Uuid) (state : State) :
    Except InvalidInitialState Record :=
  if machine.isInitialState state then .ok (inState id state)
  else .error { state, allowed := machine.initialStates }

variable (record : Record)

/-- The text of an attribute. -/
def attribute? (name : String) : Option String :=
  record.attributes.get? name

/-- Write an attribute. -/
def setAttribute (name text : String) : Record :=
  { record with attributes := record.attributes.insert name text }

/-- Write several attributes, one after the other. -/
def setAttributes (entries : List (String × String)) : Record :=
  entries.foldl (fun record entry => record.setAttribute entry.1 entry.2) record

/-- The report on the failure before the last recovery, as it is stored. -/
def error? : Option String :=
  record.attribute? errorAttribute

/-- The state to which the transition was heading that failed before the last recovery. -/
def errorState? : Option State :=
  (record.attribute? errorStateAttribute).map State.mk

/-- Move to a state and append the move to the history. -/
def apply (transition : String) (target : State) (recovery : Bool) (time : Instant) : Record :=
  { record with
    state := target
    history := record.history.record
      { transition, origin := record.state, target, time, recovery } }

/-- The record under another version. -/
def withVersion (version : UInt64) : Record :=
  { record with version }

end Record

end Lifecycle
