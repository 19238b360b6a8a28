import Lifecycle.Parts

/-!
# Machines

A machine describes the states and edges of a kind of record. It is made of parts without a
violation, so that every machine upholds

* the default initial state is an initial state, and initial states are declared;
* sources, targets and the error state are declared;
* at most one edge of a given name starts from a given state.

`Machine.resolve?` finds that one edge. Nothing here touches a record or has an effect, so it may
be asked before anything runs.
-/

namespace Lifecycle

/-- A checked description of the states and edges of a kind of record. -/
structure Machine where
  /-- What the machine is made of. -/
  parts : Parts
  /-- The state in which a record is created when nobody chooses one. -/
  defaultInitialState : State
  /-- The parts name the default. -/
  default_eq : parts.defaultInitialState = some defaultInitialState
  /-- The parts have no defect. -/
  sound : parts.violations = []
deriving DecidableEq

namespace Machine

variable (machine : Machine)

/-- All states, in declaration order. -/
def states : List State := machine.parts.states

/-- The states in which a record may be created. -/
def initialStates : List State := machine.parts.initialStates

/-- The state that failed records are taken to, if any. -/
def errorState : Option State := machine.parts.errorState

/-- The edges, in declaration order, the implicit recovery transition included. -/
def transitions : List Transition := machine.parts.transitions

/-- Whether a state is declared. -/
def hasState (state : State) : Bool := machine.states.contains state

/-- Whether a record may be created in a state. -/
def isInitialState (state : State) : Bool := machine.initialStates.contains state

/-- Whether any edge has this name. -/
def hasTransition (name : String) : Bool :=
  machine.transitions.any fun transition => transition.name == name

/-- The edge called `name` that starts from `current`. There is at most one. -/
def resolve? (current : State) (name : String) : Option Transition :=
  machine.transitions.find? fun transition => transition.applies current name

/-- Where the edge called `name` leads from `current`. -/
def target? (current : State) (name : String) : Option State :=
  (machine.resolve? current name).map Transition.target

/-- Whether there is an edge called `name` from `current`. -/
def isReachable (current : State) (name : String) : Bool :=
  (machine.resolve? current name).isSome

/-- The edges that start from `current`, in declaration order. -/
def availableTransitions (current : State) : List Transition :=
  machine.transitions.filter fun transition => transition.source.contains current

/-- The states one edge away from `current`, in the order of first mention. -/
def nextStates (current : State) : List State :=
  State.distinct ((machine.availableTransitions current).map Transition.target)

end Machine

end Lifecycle
