import Lifecycle.Machine

/-!
# Diagrams

A machine drawn as text for Mermaid: nodes are states, and edges are transitions labelled by
name. Wildcard sources are expanded to every declared state, so that a diagram shows every legal
move. In labels, characters that mean something to the drawing program are written as entities.
-/

namespace Lifecycle

namespace Machine

/-- One drawn edge. -/
structure Edge where
  /-- The state at the tail. -/
  origin : State
  /-- The name of the transition. -/
  transition : String
  /-- The state at the head. -/
  target : State
deriving DecidableEq, Repr

/-- The states that a transition is drawn from. -/
def drawnSources (machine : Machine) (transition : Transition) : List State :=
  match transition.source with
  | .any => machine.states
  | .states listed => listed

/-- Every drawn edge, in declaration order. -/
def edges (machine : Machine) : List Edge :=
  machine.transitions.flatMap fun transition =>
    (machine.drawnSources transition).map fun origin =>
      { origin, transition := transition.name, target := transition.target }

end Machine

namespace Diagram

/-- A node identifier keeps ASCII letters and digits and has an underscore for anything else. -/
def nodeId (state : State) : String :=
  String.ofList (state.name.toList.map fun c => if c.isAlphanum then c else '_')

/-- The characters that are written as entities in labels. -/
def reserved : List Char :=
  ['#', '"', '|', ':', ';', '<', '>', '[', ']', '(', ')', '\x7b', '\x7d', '%']

/-- Whether a character is a control character: U+0000 to U+001F and U+007F to U+009F. -/
def isControl (c : Char) : Bool :=
  c.toNat < 0x20 || (0x7f ≤ c.toNat && c.toNat < 0xa0)

/-- The code of a character as an entity. -/
def entity (c : Char) : List Char :=
  '#' :: (toString c.toNat).toList ++ [';']

/-- One character of a label: reserved characters become entities, control characters a space. -/
def escapeChar (c : Char) : List Char :=
  if reserved.contains c then entity c else if isControl c then [' '] else [c]

/-- The text of a label. -/
def escapeLabel (text : String) : String :=
  String.ofList (text.toList.flatMap escapeChar)

/-- A line of a diagram, indented and ended. -/
def line (text : String) : String :=
  "    " ++ text ++ "\n"

/-- The lines of a diagram under its heading. -/
def document (heading : String) (lines : List String) : String :=
  heading ++ "\n" ++ String.join (lines.map line)

/-- The machine as a state diagram: an entry arrow for each initial state, then the edges. -/
def stateDiagram (machine : Machine) : String :=
  document "stateDiagram-v2"
    ((machine.initialStates.map fun state => "[*] --> " ++ nodeId state) ++
      machine.edges.map fun edge =>
        nodeId edge.origin ++ " --> " ++ nodeId edge.target ++ ": " ++ escapeLabel edge.transition)

/-- A state as a node: the default initial state is a stadium, the error state a hexagon, and any
other state a box. -/
def flowchartNode (machine : Machine) (state : State) : String :=
  let label := "\"" ++ escapeLabel state.name ++ "\""
  if state = machine.defaultInitialState then nodeId state ++ "([" ++ label ++ "])"
  else if some state = machine.errorState then
    nodeId state ++ "\x7b\x7b" ++ label ++ "\x7d\x7d"
  else nodeId state ++ "[" ++ label ++ "]"

/-- The machine as a flowchart: a node for each state, then the edges. -/
def flowchart (machine : Machine) : String :=
  document "flowchart LR"
    (machine.states.map (flowchartNode machine) ++
      machine.edges.map fun edge =>
        nodeId edge.origin ++ " -->|" ++ escapeLabel edge.transition ++ "| " ++
          nodeId edge.target)

end Diagram

end Lifecycle
