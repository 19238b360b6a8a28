import Lifecycle.State

/-!
# Sources of transitions

A transition starts either from any state whatsoever or from the states of an explicit list.
`Source.overlap?` is the meet of two sources: it lists what both contain, and is absent when the
two are disjoint.
-/

namespace Lifecycle

/-- Where a transition may start. -/
inductive Source where
  /-- Every state, declared or not. -/
  | any
  /-- The listed states only. A state may be listed more than once. -/
  | states (listed : List State)
deriving DecidableEq, Repr, Inhabited

namespace Source

/-- Whether a state is a legal starting point. -/
def contains : Source → State → Bool
  | any, _ => true
  | states listed, state => listed.contains state

/-- Whether the source is the wildcard. -/
def isWildcard : Source → Bool
  | any => true
  | states _ => false

/-- The states that the source names; the wildcard names none. -/
def listed : Source → List State
  | any => []
  | states listed => listed

/-- A list of states as a source, unless it is empty. -/
def ofNonempty? : List State → Option Source
  | [] => none
  | shared => some (states shared)

/-- What two sources share, absent when they are disjoint. A wildcard shares every listed state;
two lists share the entries of the left one that the right one has too, repeats included. -/
def overlap? : Source → Source → Option Source
  | any, any => some any
  | any, states listed => ofNonempty? listed
  | states listed, any => ofNonempty? listed
  | states left, states right => ofNonempty? (left.filter fun state => right.contains state)

/-- The source as it is shown to people: a star, or the names of its states. -/
def display : Source → String
  | any => "*"
  | states listed => State.listing listed

@[simp]
theorem contains_any (state : State) : any.contains state = true := rfl

@[simp]
theorem contains_states {listed : List State} {state : State} :
    (states listed).contains state = true ↔ state ∈ listed := by
  simp [contains]

end Source

end Lifecycle
