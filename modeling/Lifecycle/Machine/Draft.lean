import Lifecycle.Machine
import Lifecycle.Transition.Draft

/-!
# Drafts of machines

A draft gathers the description of a machine. `Draft.parts` completes it: states that nobody
declared are inferred from everything else, a single initial state is the default, and an error
state brings a recovery transition along. `Draft.build` checks the completed parts and reports
every defect at the same time.
-/

namespace Lifecycle

/-- Why a description does not make a machine. -/
inductive BuildError where
  /-- A transition was added before anybody said where it starts. -/
  | missingSource (transition : String)
  /-- A transition was added before anybody said where it leads. -/
  | missingTarget (transition : String)
  /-- The description has these defects. -/
  | invalid (violations : List Violation)
deriving DecidableEq, Repr

namespace BuildError

/-- The defects found, none for a transition that was left incomplete. -/
def violations : BuildError → List Violation
  | invalid violations => violations
  | missingSource _ | missingTarget _ => []

/-- The error in words. -/
def message : BuildError → String
  | missingSource transition =>
    "Transition '" ++ transition ++
      "' source not specified. Call .from(state) or .from_any()"
  | missingTarget transition =>
    "Transition '" ++ transition ++ "' target state not specified. Call .to(state)"
  | invalid violations =>
    "Invalid state machine definition: " ++
      String.intercalate "; " (violations.map Violation.message)

end BuildError

namespace Transition.Draft

/-- The transition, or what is missing as an error of the machine that it was meant for. -/
def build (draft : Transition.Draft) : Except BuildError Transition :=
  match draft.finish with
  | .ok transition => .ok transition
  | .error .source => .error (.missingSource draft.name)
  | .error .target => .error (.missingTarget draft.name)

end Transition.Draft

namespace Machine

/-- A machine in the making. -/
structure Draft where
  /-- The full state set, if it is declared. -/
  states : Option (List State) := none
  /-- States that no transition mentions. -/
  extraStates : List State := []
  /-- The states in which a record may be created. -/
  initialStates : List State := []
  /-- The state in which a record is created when nobody chooses one. -/
  defaultInitialState : Option State := none
  /-- The state that failed records are taken to. -/
  errorState : Option State := none
  /-- Whether the implicit recovery transition may start from the error state itself. -/
  errorSelfLoop : Bool := true
  /-- The edges, in declaration order. -/
  transitions : List Transition := []
deriving DecidableEq, Repr, Inhabited

namespace Draft

variable (draft : Draft)

/-- Declare the full state set; the last declaration wins. -/
def declareStates (states : List State) : Draft :=
  { draft with states := some states }

/-- Add states that no transition mentions. -/
def addExtraStates (states : List State) : Draft :=
  { draft with extraStates := draft.extraStates ++ states }

/-- Add initial states. -/
def addInitialStates (states : List State) : Draft :=
  { draft with initialStates := draft.initialStates ++ states }

/-- Choose the default initial state. -/
def chooseDefault (state : State) : Draft :=
  { draft with defaultInitialState := some state }

/-- Choose the error state. -/
def chooseErrorState (state : State) : Draft :=
  { draft with errorState := some state }

/-- Say whether the implicit recovery transition may start from the error state itself. -/
def allowErrorSelfLoop (allowed : Bool) : Draft :=
  { draft with errorSelfLoop := allowed }

/-- Add finished transitions. -/
def addTransitions (transitions : List Transition) : Draft :=
  { draft with transitions := draft.transitions ++ transitions }

/-- Finish a transition and add it. -/
def addDraft (transition : Transition.Draft) : Except BuildError Draft :=
  transition.build.map fun finished => draft.addTransitions [finished]

/-- The states that something in the draft mentions, in the order of first mention: initial
states, extra states, the error state, then the states of each transition. -/
def inferredStates : List State :=
  State.distinct (draft.initialStates ++ draft.extraStates ++ draft.errorState.toList ++
    draft.transitions.flatMap Transition.mentioned)

/-- The state set of the machine: the declared one, or else what the draft mentions. -/
def allStates : List State :=
  match draft.states with
  | some states => State.distinct states
  | none => draft.inferredStates

/-- The default that was chosen, or else the one initial state. -/
def resolvedDefault : Option State :=
  match draft.defaultInitialState, draft.initialStates with
  | some state, _ => some state
  | none, [only] => some only
  | none, _ => none

/-- The edge that takes a failed record to the error state: from any state with the self loop,
and without it from every state but the error state. -/
def recoveryTransition (errorState : State) : Transition where
  name := Transition.recoveryName
  source :=
    if draft.errorSelfLoop then .any
    else .states (draft.allStates.filter fun state => state != errorState)
  target := errorState

/-- Whether a transition with the name of the recovery transition was added. -/
def declaresRecovery : Bool :=
  draft.transitions.any fun transition => transition.name == Transition.recoveryName

/-- The implicit recovery transition, present when there is an error state and nobody declared
a recovery of its own. -/
def implicitRecovery : List Transition :=
  match draft.errorState with
  | some errorState =>
    if draft.declaresRecovery then [] else [draft.recoveryTransition errorState]
  | none => []

/-- The completed parts. -/
def parts : Parts where
  states := draft.allStates
  initialStates := State.distinct draft.initialStates
  defaultInitialState := draft.resolvedDefault
  errorState := draft.errorState
  transitions := draft.transitions ++ draft.implicitRecovery

/-- Check the completed parts and make a machine of them, or report every defect. Parts without
a default always have a defect, so the report is never empty. -/
def build : Except BuildError Machine :=
  match default_eq : draft.parts.defaultInitialState with
  | some defaultInitialState =>
    if sound : draft.parts.violations = [] then
      .ok { parts := draft.parts, defaultInitialState, default_eq, sound }
    else
      .error (.invalid draft.parts.violations)
  | none => .error (.invalid draft.parts.violations)

end Draft

end Machine

end Lifecycle
