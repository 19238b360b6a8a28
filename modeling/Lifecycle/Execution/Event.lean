import Lifecycle.Execution.Fault

/-!
# Events

What the library has to say about an execution while it runs. The caller of an execution sees only
its result; a recovery, and above all one that failed, is told of by events alone.
-/

namespace Lifecycle

/-- How much an event matters. -/
inductive Level where
  /-- Of interest to developers. -/
  | debug
  /-- Of interest to operators. -/
  | info
  /-- A request was not fulfilled. -/
  | warn
  /-- A record was left in a state from which it cannot go on. -/
  | error
deriving DecidableEq, Repr

/-- Something that happened to a record. -/
inductive Event where
  /-- A transition was committed. The record is the one that the operation returned. -/
  | applied (record : Uuid) (transition : String) (origin target : State)
  /-- A transition was refused before anything ran. -/
  | rejected (record : Uuid) (transition : String) (origin target : State)
  /-- The operation or the commit of a transition failed. -/
  | failed (record : Uuid) (transition : String) (origin target : State) (error : String)
  /-- There was a failure during a recovery, from which nothing recovers. -/
  | recoverySkipped (record : Uuid)
  /-- A record was taken to the error state. -/
  | recovered (record : Uuid) (origin failedTarget errorState : State)
  /-- A record could not be taken to the error state. -/
  | recoveryFailed (record : Uuid) (state failedTarget : State)
      (failure recoveryError : String)
  /-- Somebody asked whether an action may be attempted. -/
  | preflight (record : Uuid) (action transition : String) (state : State) (reachable : Bool)
deriving DecidableEq, Repr

namespace Event

/-- How much the event matters. -/
def level : Event → Level
  | applied .. | recoverySkipped .. | preflight .. => .debug
  | recovered .. => .info
  | rejected .. | failed .. => .warn
  | recoveryFailed .. => .error

/-- The event in words, without what it is about. -/
def message : Event → String
  | applied .. => "Transition applied"
  | rejected .. => "Transition rejected"
  | failed .. => "Transition operation failed"
  | recoverySkipped .. => "Already recovering, skipping nested recovery"
  | recovered .. => "Record recovered into error state"
  | recoveryFailed .. => "Recovery transition failed; record is outside the normal state graph"
  | preflight .. => "Pre-flight transition check"

end Event

end Lifecycle
