import Lifecycle.Transition
import Lifecycle.Violation

/-!
# Parts of a machine

The parts of a machine before anybody has checked them. `Parts.violations` reports every defect
of the parts, rule by rule, so that a description can be mended in one pass; parts without a
violation are what a `Machine` is made of.
-/

namespace Lifecycle

/-- The parts of a machine, not yet checked. -/
structure Parts where
  /-- All states, in declaration order. -/
  states : List State
  /-- The states in which a record may be created. -/
  initialStates : List State
  /-- The state in which a record is created when nobody chooses one. -/
  defaultInitialState : Option State
  /-- The state that failed records are taken to. -/
  errorState : Option State
  /-- The edges, in declaration order. -/
  transitions : List Transition
deriving DecidableEq, Repr, Inhabited

namespace Parts

/-- No violation when the condition holds, and this one otherwise. -/
def require (condition : Bool) (violation : Violation) : List Violation :=
  if condition then [] else [violation]

/-- There is an initial state, and every initial state is declared. -/
def initialViolations (parts : Parts) : List Violation :=
  require (!parts.initialStates.isEmpty) .noInitialStates ++
    parts.initialStates.flatMap fun state =>
      require (parts.states.contains state) (.undeclaredInitialState state)

/-- The default is an initial state, and may be left out only where there is no initial state:
that is reported by a rule of its own. -/
def defaultViolations (parts : Parts) : List Violation :=
  match parts.defaultInitialState with
  | some state => require (parts.initialStates.contains state) (.defaultNotInitial state)
  | none => require parts.initialStates.isEmpty .missingDefaultInitialState

/-- The error state, if any, is declared. -/
def errorViolations (parts : Parts) : List Violation :=
  match parts.errorState with
  | some state => require (parts.states.contains state) (.undeclaredErrorState state)
  | none => []

/-- An explicit source lists at least one state. -/
def sourceViolations (transition : Transition) : List Violation :=
  match transition.source with
  | .any => []
  | .states listed => require (!listed.isEmpty) (.emptySource transition.name)

/-- A transition has a name and a source, and every state that it names is declared. -/
def transitionViolations (parts : Parts) (transition : Transition) : List Violation :=
  require (transition.name != "") .emptyTransitionName ++
    sourceViolations transition ++
    transition.mentioned.flatMap fun state =>
      require (parts.states.contains state) (.undeclaredState transition.name state)

/-- No two transitions of one name share a source state: one violation for each pair that does,
ordered by the earlier of the two and then by the later. -/
def ambiguities : List Transition → List Violation
  | [] => []
  | left :: rest =>
    (rest.filterMap fun right =>
      (left.overlap? right).map (.ambiguousTransition left.name)) ++ ambiguities rest

/-- Where there is an error state, every recovery transition leads to it. -/
def recoveryViolations (parts : Parts) : List Violation :=
  match parts.errorState with
  | none => []
  | some errorState =>
    (parts.transitions.filter fun transition => transition.name == Transition.recoveryName).flatMap
      fun transition => require (transition.target == errorState)
        (.recoveryTargetMismatch transition.name errorState transition.target)

/-- Every defect of the parts, in the order of the rules. -/
def violations (parts : Parts) : List Violation :=
  parts.initialViolations ++
    parts.defaultViolations ++
    parts.errorViolations ++
    parts.transitions.flatMap parts.transitionViolations ++
    ambiguities parts.transitions ++
    parts.recoveryViolations

@[simp]
theorem require_eq_nil {condition : Bool} {violation : Violation} :
    require condition violation = [] ↔ condition = true := by
  cases condition <;> simp [require]

end Parts

end Lifecycle
