import Lifecycle.Transition

/-!
# Drafts of transitions

A draft gathers the parts of a transition in any order. Source states accumulate without
repeats, and the wildcard absorbs them; the last target wins.
-/

namespace Lifecycle

namespace Transition

/-- A transition in the making. -/
structure Draft where
  /-- The operation that the edge belongs to. -/
  name : String
  /-- Where the edge may start, once somebody has said so. -/
  source : Option Source := none
  /-- Where the edge leads, once somebody has said so. -/
  target : Option State := none
deriving DecidableEq, Repr

namespace Draft

/-- What keeps a draft from being a transition. -/
inductive Gap where
  /-- No source was given. -/
  | source
  /-- No target was given. -/
  | target
deriving DecidableEq, Repr

/-- Begin a draft of the named operation. -/
def named (name : String) : Draft := { name }

/-- Add source states. An empty list still says that there is an explicit source. -/
def addSources (draft : Draft) (states : List State) : Draft :=
  match draft.source with
  | some .any => draft
  | some (.states listed) => { draft with source := some (.states (State.addAll listed states)) }
  | none => { draft with source := some (.states (State.distinct states)) }

/-- Add one source state. -/
def addSource (draft : Draft) (state : State) : Draft :=
  draft.addSources [state]

/-- Let the transition start from any state. -/
def fromAny (draft : Draft) : Draft :=
  { draft with source := some .any }

/-- Set the target. -/
def leadTo (draft : Draft) (state : State) : Draft :=
  { draft with target := some state }

/-- The transition, once source and target are known. A missing source is reported first. -/
def finish (draft : Draft) : Except Gap Transition :=
  match draft.source, draft.target with
  | none, _ => .error .source
  | some _, none => .error .target
  | some source, some target => .ok { name := draft.name, source, target }

end Draft

end Transition

end Lifecycle
