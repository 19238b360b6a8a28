import Lifecycle.Json.Format
import Lifecycle.Transition

/-!
# Transitions as documents

A transition is an object of its name, its source and its target. A source is either the word
`any` or an object whose only member says which alternative is meant.
-/

namespace Lifecycle

open Json (Error Fields Format Reader Value)

namespace State

/-- A state is written as its name. -/
def format : Format State :=
  Format.string.transfer State.mk State.name

end State

namespace Source

/-- The names of the alternatives, as they are listed to a reader of a wrong one. -/
def alternatives : String := "`any` or `states`"

/-- Read the word `null`. -/
def readNothing (document : List Char) : Except Error (List Char) :=
  match Text.skipInsignificant document with
  | 'n' :: rest => Json.readWord ['u', 'l', 'l'] rest
  | other => .error (Json.mismatch "unit" other)

/-- Read the content of an alternative after its name. An unknown name is reported at once. -/
def readContent (name : String) (depth : Nat) (document : List Char) :
    Except Error (Source × List Char) :=
  if name = "any" then do
    let document ← Json.readColon document
    return (any, ← readNothing document)
  else if name = "states" then do
    let document ← Json.readColon document
    let (listed, document) ← Reader.list State.format.read depth document
    return (states listed, document)
  else .error (.unknownAlternative name alternatives)

/-- The end of an object of a single member. -/
def closeSingle (document : List Char) : Except Error (List Char) :=
  match Text.skipInsignificant document with
  | [] => .error .endInObject
  | c :: rest => if c = '\x7d' then .ok rest else .error .expectedValue

/-- Read a source: an alternative without content is a string, one with content an object. -/
def read : Reader Source := fun depth document =>
  match Text.skipInsignificant document with
  | [] => .error .endInValue
  | '"' :: rest => do
    let (name, rest) ← Json.readString rest
    if name = "any" then return (any, rest)
    else if name = "states" then throw (.invalidType .bareAlternative "newtype variant")
    else throw (.unknownAlternative name alternatives)
  | '\x7b' :: rest => do
    let depth ← Json.enter depth
    match Text.skipInsignificant rest with
    | [] => throw .endInObject
    | '"' :: rest =>
      let (name, rest) ← Json.readString rest
      let (source, rest) ← readContent name depth rest
      return (source, ← closeSingle rest)
    -- an empty object lacks its alternative, anything else is no name of one
    | '\x7d' :: _ => throw .expectedValue
    | _ => throw .keyNotString
  | _ => .error .expectedValue

/-- Write a source. -/
def write : Source → Value
  | any => .string "any"
  | states listed => .object [("states", .array (listed.map State.format.write))]

/-- The format of sources. -/
def format : Format Source where
  read := read
  write := write

end Source

namespace Transition

/-- The fields of a transition. -/
def fields : Fields [String, Source, State] :=
  .cons { key := "name", format := .string } <|
  .cons { key := "from", format := Source.format } <|
  .cons { key := "to", format := State.format } .nil

/-- The format of transitions. -/
def format : Format Transition :=
  (fields.format "struct TransitionDefinition").transfer
    (fun (name, source, target, _) => { name, source, target })
    (fun transition => (transition.name, transition.source, transition.target, ()))

end Transition

end Lifecycle
