import Lifecycle.Source

/-!
# Transitions

A transition is a named edge from its source to exactly one target. Several transitions may share
a name; `Machine` makes sure that at most one of them starts from any given state.
-/

namespace Lifecycle

/-- A named edge of a machine. -/
structure Transition where
  /-- The operation that the edge belongs to. -/
  name : String
  /-- Where the edge may start. -/
  source : Source
  /-- Where the edge leads. -/
  target : State
deriving DecidableEq, Repr, Inhabited

namespace Transition

/-- The name of the transition that takes a failed record to the error state. -/
def recoveryName : String := "error"

/-- Whether the edge is called `name` and may start from `current`. -/
def applies (transition : Transition) (current : State) (name : String) : Bool :=
  transition.name == name && transition.source.contains current

/-- The states that the edge names: those of its source, then its target. -/
def mentioned (transition : Transition) : List State :=
  transition.source.listed ++ [transition.target]

/-- What two edges of one name share, absent when the names differ or the sources are disjoint. -/
def overlap? (left right : Transition) : Option Source :=
  if left.name = right.name then left.source.overlap? right.source else none

/-- The edge as it is shown to people. -/
def display (transition : Transition) : String :=
  transition.name ++ ": [" ++ transition.source.display ++ "] -> " ++ transition.target.name

@[simp]
theorem applies_iff {transition : Transition} {current : State} {name : String} :
    transition.applies current name = true ↔
      transition.name = name ∧ transition.source.contains current = true := by
  simp [applies]

end Transition

end Lifecycle
