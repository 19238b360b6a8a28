import Lifecycle.Store

/-!
# Faults of executions

The errors that an execution deals with: those of the operations that hosts supply, which are
known only by their text and by what caused them, and its own. What caused an error is an error
again, so that there is a chain of them, down to one that nothing caused.
-/

namespace Lifecycle

/-- An error as it is seen from outside: its text, and the error that caused it, if there is one. -/
inductive Cause where
  /-- An error that nothing caused. -/
  | root (message : String)
  /-- An error that another one caused. -/
  | because (message : String) (source : Cause)
deriving DecidableEq, Repr

namespace Cause

/-- An error with these causes, from the direct one to the root. -/
def ofTexts (message : String) : List String → Cause
  | [] => root message
  | cause :: causes => because message (ofTexts cause causes)

/-- The error in words. -/
def message : Cause → String
  | root message | because message _ => message

/-- The error that caused it, if there is one. -/
def source? : Cause → Option Cause
  | root _ => none
  | because _ source => some source

/-- The texts of the error and of everything that caused it, down to the root. -/
def texts : Cause → List String
  | root message => [message]
  | because message source => message :: source.texts

end Cause

/-- Errors that have a text, and may have been caused by other ones. -/
class Fault (ε : Type u) where
  /-- The error in words. -/
  message : ε → String
  /-- The error that caused it, if there is one. -/
  source? : ε → Option Cause

namespace Fault

variable [Fault ε]

/-- The error as it is seen from outside. -/
def asCause (error : ε) : Cause :=
  match source? error with
  | none => .root (message error)
  | some source => .because (message error) source

/-- The texts of what caused the error, from the direct cause to the root. -/
def causes (error : ε) : List String :=
  match source? error with
  | none => []
  | some source => source.texts

end Fault

instance : Fault Cause where
  message := Cause.message
  source? := Cause.source?

/-- Errors of operations. They have room for what a store answers. -/
class OperationFault (ε : Type u) extends Fault ε where
  /-- The error that stands for a failed save. -/
  ofStore : StoreError → ε

instance : OperationFault StoreError where
  message := StoreError.message
  source? _ := none
  ofStore := id

/-- A transition does not lead from the state of the record to the target that was asked for. -/
structure InvalidTransition where
  /-- The state of the record. -/
  origin : State
  /-- The target that was asked for. -/
  attempted : State
  /-- The name of the transition. -/
  transition : String
deriving DecidableEq, Repr

namespace InvalidTransition

/-- The error in words. -/
def message (rejected : InvalidTransition) : String :=
  "Cannot apply transition '" ++ rejected.transition ++ "' from '" ++ rejected.origin.name ++
    "' to '" ++ rejected.attempted.name ++ "'"

end InvalidTransition

/-- Why an execution did not commit. -/
inductive ExecutionError (ε : Type u) where
  /-- The transition was refused before anything ran. -/
  | invalidTransition (rejected : InvalidTransition)
  /-- The operation or the commit failed. The error is the operation's own. -/
  | operationFailure (transition : String) (error : ε)
deriving DecidableEq, Repr

namespace ExecutionError

/-- Whether the transition was refused before anything ran. -/
def isInvalidTransition : ExecutionError ε → Bool
  | invalidTransition _ => true
  | operationFailure _ _ => false

/-- The error of the operation, if it ran and failed. -/
def operationError? : ExecutionError ε → Option ε
  | invalidTransition _ => none
  | operationFailure _ error => some error

variable [Fault ε]

/-- The error in words. -/
def message : ExecutionError ε → String
  | invalidTransition rejected => rejected.message
  | operationFailure transition error =>
    "Transition '" ++ transition ++ "' failed: " ++ Fault.message error

/-- The error of a failed operation caused the failure. Nothing caused a refusal. -/
def source? : ExecutionError ε → Option Cause
  | invalidTransition _ => none
  | operationFailure _ error => some (Fault.asCause error)

instance : Fault (ExecutionError ε) where
  message := message
  source? := source?

end ExecutionError

end Lifecycle
