import Lifecycle.Source

/-!
# Violations

A violation is one defect in the description of a machine. Each kind names the offending state
or transition, has a stable code and a text for people.
-/

namespace Lifecycle

/-- A single defect in the description of a machine. -/
inductive Violation where
  /-- There is no initial state. -/
  | noInitialStates
  /-- An initial state is not among the states. -/
  | undeclaredInitialState (state : State)
  /-- There are initial states, and no default was chosen among them. -/
  | missingDefaultInitialState
  /-- The default is not an initial state. -/
  | defaultNotInitial (state : State)
  /-- The error state is not among the states. -/
  | undeclaredErrorState (state : State)
  /-- A transition has no name. -/
  | emptyTransitionName
  /-- A transition starts nowhere. -/
  | emptySource (transition : String)
  /-- A transition names a state that is not among the states. -/
  | undeclaredState (transition : String) (state : State)
  /-- Two transitions of one name share a source state. -/
  | ambiguousTransition (transition : String) (overlap : Source)
  /-- A recovery transition leads elsewhere than to the error state. -/
  | recoveryTargetMismatch (transition : String) (expected found : State)
deriving DecidableEq, Repr

namespace Violation

/-- A stable tag for the kind of defect. -/
def code : Violation → String
  | noInitialStates => "NO_INITIAL_STATES"
  | undeclaredInitialState _ => "UNDECLARED_INITIAL_STATE"
  | missingDefaultInitialState => "MISSING_DEFAULT_INITIAL_STATE"
  | defaultNotInitial _ => "DEFAULT_NOT_INITIAL"
  | undeclaredErrorState _ => "UNDECLARED_ERROR_STATE"
  | emptyTransitionName => "EMPTY_TRANSITION_NAME"
  | emptySource _ => "EMPTY_SOURCE"
  | undeclaredState _ _ => "UNDECLARED_STATE"
  | ambiguousTransition _ _ => "AMBIGUOUS_TRANSITION"
  | recoveryTargetMismatch _ _ _ => "RECOVERY_TARGET_MISMATCH"

/-- The defect in words. -/
def message : Violation → String
  | noInitialStates => "No initial states declared"
  | undeclaredInitialState state =>
    "Initial state '" ++ state.name ++ "' is not a declared state"
  | missingDefaultInitialState =>
    "A default initial state is required when several initial states are declared"
  | defaultNotInitial state =>
    "Default initial state '" ++ state.name ++ "' is not one of the initial states"
  | undeclaredErrorState state => "Error state '" ++ state.name ++ "' is not a declared state"
  | emptyTransitionName => "Transition name cannot be empty"
  | emptySource transition => "Transition '" ++ transition ++ "' has no source states"
  | undeclaredState transition state =>
    "Transition '" ++ transition ++ "' references undeclared state '" ++ state.name ++ "'"
  | ambiguousTransition transition overlap =>
    "Transitions named '" ++ transition ++ "' overlap on source states [" ++ overlap.display ++ "]"
  | recoveryTargetMismatch transition expected found =>
    "Recovery transition '" ++ transition ++ "' must lead to error state '" ++ expected.name ++
      "', not '" ++ found.name ++ "'"

end Violation

end Lifecycle
