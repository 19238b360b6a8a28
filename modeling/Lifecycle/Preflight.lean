import Lifecycle.Execution.Event
import Lifecycle.Machine
import Lifecycle.Text.Quoted

/-!
# Pre-flight checks

A check answers, before anything runs, whether an action may be attempted on a record. The
transition check asks the machine whether the transition of the action has an edge from the state
of the record; other checks are predicates that a host supplies. All checks of a list must allow,
and they are asked in order up to the first that denies.
-/

namespace Lifecycle

/-- Something that somebody wants to do with a record. -/
structure Action where
  /-- The name. -/
  name : String
  /-- The transition that the action drives, if any. -/
  transition : Option String := none
deriving DecidableEq, Repr

namespace Action

/-- An action that has nothing to do with the machine. -/
def named (name : String) : Action := { name }

/-- An action that drives the transition of the same name. -/
def drives (name : String) : Action := { name, transition := some name }

/-- Let an action drive a transition of another name. -/
def withTransition (action : Action) (transition : String) : Action :=
  { action with transition := some transition }

/-- The action as it is shown to people: its name, and a transition of another name. -/
def display (action : Action) : String :=
  match action.transition with
  | some transition =>
    if transition = action.name then action.name
    else action.name ++ " (" ++ transition ++ ")"
  | none => action.name

end Action

/-- A question that is asked before anything runs. -/
inductive Check where
  /-- Whether the transition of the action has an edge from the state of the record. -/
  | transition (machine : Machine)
  /-- Whether a predicate of the host holds. -/
  | predicate (description : String) (holds : Record → Action → Bool)

namespace Check

/-- The check in words. -/
def describe : Check → String
  | transition _ => "record state allows the action's transition"
  | predicate description _ => description

/-- Whether the check allows the action. An action without a transition is no concern of the
transition check. -/
def allows : Check → Record → Action → Bool
  | transition machine, record, action =>
    match action.transition with
    | some name => machine.isReachable record.state name
    | none => true
  | predicate _ holds, record, action => holds record action

/-- The events of asking the check. -/
def events (check : Check) (record : Record) (action : Action) : List Event :=
  match check, action.transition with
  | transition machine, some name =>
    [.preflight record.id action.name name record.state (machine.isReachable record.state name)]
  | _, _ => []

/-- A predicate as it is shown to developers. -/
def debug (description : String) : String :=
  "FnCheck \x7b description: " ++ Text.quote description ++ ", .. \x7d"

/-- The checks that are asked: all up to the first that denies, and that one too. -/
def asked (record : Record) (action : Action) : List Check → List Check
  | [] => []
  | check :: checks =>
    if check.allows record action then check :: asked record action checks else [check]

/-- Whether every check allows the action. -/
def allAllow (checks : List Check) (record : Record) (action : Action) : Bool :=
  checks.all fun check => check.allows record action

end Check

end Lifecycle
