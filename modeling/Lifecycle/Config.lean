import Lifecycle.Json.Format
import Lifecycle.Machine.Draft

/-!
# Configurations

A configuration is the description of a machine as plain data, so that a machine can live in a
file. `Config.build` turns it into a machine by way of a draft, and so under the same rules as a
machine that is described step by step.
-/

namespace Lifecycle

open Json (Error Fields Format Reader Value)

namespace Config

/-- Where an edge of a configuration may start. A star stands for every state. -/
inductive Origin where
  /-- One state, or the star. -/
  | one (name : String)
  /-- Several states. A star among them stands for every state. -/
  | many (names : List String)
deriving DecidableEq, Repr

/-- One edge of a configuration. -/
structure Edge where
  /-- The operation that the edge belongs to. -/
  name : String
  /-- Where the edge may start. -/
  origin : Origin
  /-- Where the edge leads. -/
  target : String
deriving DecidableEq, Repr

end Config

/-- The description of a machine as plain data. -/
structure Config where
  /-- The full state set, if it is declared. -/
  states : Option (List String) := none
  /-- States that no transition mentions. -/
  extraStates : List String := []
  /-- The states in which a record may be created. -/
  initialStates : List String := []
  /-- The state in which a record is created when nobody chooses one. -/
  defaultInitialState : Option String := none
  /-- The state that failed records are taken to. -/
  errorState : Option String := none
  /-- Whether the implicit recovery transition may start from the error state itself. -/
  errorSelfLoop : Bool := true
  /-- The edges, in declaration order. -/
  transitions : List Config.Edge := []
deriving DecidableEq, Repr

namespace Config

/-- The name that stands for every state. -/
def wildcard : String := "*"

namespace Origin

/-- The source that is meant. -/
def source : Origin → Source
  | one name => if name = wildcard then .any else .states [⟨name⟩]
  | many names => if wildcard ∈ names then .any else .states (names.map State.mk)

/-- The strings of a list of values, absent when one of them is something else. -/
def strings? (values : List Value) : Option (List String) :=
  values.mapM fun
    | .string name => some name
    | _ => none

/-- What a value says about the start of an edge: a string or an array of strings. -/
def ofValue (value : Value) : Except Error Origin :=
  let refusal : Error := .noAlternative "SourceConfig"
  match value with
  | .string name => .ok (one name)
  | .array values => ((strings? values).map many).elim (.error refusal) .ok
  | _ => .error refusal

/-- The format of origins. The value is read in full before anybody asks what it is. -/
def format : Format Origin where
  read depth document := do
    let (value, rest) ← Reader.any depth document
    return (← ofValue value, rest)
  write
    | one name => .string name
    | many names => .array (names.map .string)

end Origin

namespace Edge

/-- The transition that is meant. -/
def transition (edge : Edge) : Transition where
  name := edge.name
  source := edge.origin.source
  target := ⟨edge.target⟩

/-- The fields of an edge. -/
def fields : Fields [String, Origin, String] :=
  .cons { key := "name", format := .string } <|
  .cons { key := "from", format := Origin.format } <|
  .cons { key := "to", format := .string } .nil

/-- The format of edges. -/
def format : Format Edge :=
  (fields.format "struct TransitionConfig").transfer
    (fun (name, origin, target, _) => { name, origin, target })
    (fun edge => (edge.name, edge.origin, edge.target, ()))

end Edge

/-- The fields of a configuration. Each may be left out; absent options are not written. -/
def fields : Fields [Option (List String), List String, List String, Option String,
    Option String, Bool, List Edge] :=
  .cons { key := "states", format := .nullable (.list .string), absent := some none,
          omitted := Option.isNone } <|
  .cons { key := "extra_states", format := .list .string, absent := some [] } <|
  .cons { key := "initial_states", format := .list .string, absent := some [] } <|
  .cons { key := "default_initial_state", format := .nullable .string, absent := some none,
          omitted := Option.isNone } <|
  .cons { key := "error_state", format := .nullable .string, absent := some none,
          omitted := Option.isNone } <|
  .cons { key := "error_self_loop", format := .boolean, absent := some true } <|
  .cons { key := "transitions", format := .list Edge.format, absent := some [] } .nil

/-- The format of configurations. -/
def format : Format Config :=
  (fields.format "struct StateMachineConfig").transfer
    (fun (states, extraStates, initialStates, defaultInitialState, errorState, errorSelfLoop,
        transitions, _) =>
      { states, extraStates, initialStates, defaultInitialState, errorState, errorSelfLoop,
        transitions })
    (fun config =>
      (config.states, config.extraStates, config.initialStates, config.defaultInitialState,
        config.errorState, config.errorSelfLoop, config.transitions, ()))

/-- Read a configuration. -/
def parse (document : String) : Except Error Config :=
  format.parse document

/-- Write a configuration, each item on a line of its own. -/
def text (config : Config) : String :=
  format.indented config

/-- The draft that the configuration describes. -/
def draft (config : Config) : Machine.Draft where
  states := config.states.map (List.map State.mk)
  extraStates := config.extraStates.map State.mk
  initialStates := config.initialStates.map State.mk
  defaultInitialState := config.defaultInitialState.map State.mk
  errorState := config.errorState.map State.mk
  errorSelfLoop := config.errorSelfLoop
  transitions := config.transitions.map Edge.transition

/-- Check the configuration and make a machine of it. -/
def build (config : Config) : Except BuildError Machine :=
  config.draft.build

/-- Why no machine can be loaded from a document. -/
inductive LoadError where
  /-- The document is no configuration. -/
  | unreadable (error : Error)
  /-- The configuration does not make a machine. -/
  | invalid (error : BuildError)
deriving DecidableEq, Repr

namespace LoadError

/-- The error in words. -/
def message : LoadError → String
  | unreadable error => "Failed to parse state machine config: " ++ error.message
  | invalid error => error.message

end LoadError

/-- Read a configuration and make a machine of it. -/
def load (document : String) : Except LoadError Machine :=
  match parse document with
  | .error error => .error (.unreadable error)
  | .ok config =>
    match config.build with
    | .ok machine => .ok machine
    | .error error => .error (.invalid error)

end Config

end Lifecycle
