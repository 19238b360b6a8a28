import Lifecycle.Document.Transition
import Lifecycle.Record
import Lifecycle.Time.Rfc3339

/-!
# Records as documents

Histories and records are objects of their fields. An identifier and a moment are strings in their
own formats, and attributes are an object whose keys are the names in ascending order. When a
document repeats a name, the last attribute counts.
-/

namespace Lifecycle

open Json (Fields Format Value)

namespace Uuid

/-- The format of identifiers. -/
def format : Format Uuid :=
  .text "a formatted UUID string" (fun content => (parse content).mapError ReadError.message) text

end Uuid

namespace Time.Instant

/-- The format of moments. -/
def format : Format Instant :=
  .text "an RFC 3339 formatted date and time string"
    (fun content => (parse content).mapError ReadError.message) text

end Time.Instant

namespace Attributes

/-- The format of attributes. -/
def format : Format Attributes where
  read := .mapping Format.string.read empty fun name text attributes =>
    attributes.insert name text
  write attributes := .object (attributes.entries.map fun (name, text) => (name, .string text))

end Attributes

namespace Step

/-- The fields of a step. -/
def fields : Fields [String, State, State, Time.Instant, Bool] :=
  .cons { key := "transition", format := .string } <|
  .cons { key := "from", format := State.format } <|
  .cons { key := "to", format := State.format } <|
  .cons { key := "timestamp", format := Time.Instant.format } <|
  .cons { key := "recovery", format := .boolean } .nil

/-- The format of steps. -/
def format : Format Step :=
  (fields.format "struct StateTransition").transfer
    (fun (transition, origin, target, time, recovery, _) =>
      { transition, origin, target, time, recovery })
    (fun step => (step.transition, step.origin, step.target, step.time, step.recovery, ()))

end Step

namespace History

/-- The fields of a history. -/
def fields : Fields [List Step] :=
  .cons { key := "transitions", format := .list Step.format } .nil

/-- The format of histories. -/
def format : Format History :=
  (fields.format "struct StateHistory").transfer (fun (steps, _) => { steps })
    (fun history => (history.steps, ()))

end History

namespace Record

/-- The fields of a record. -/
def fields : Fields [Uuid, State, Attributes, History, UInt64] :=
  .cons { key := "id", format := Uuid.format } <|
  .cons { key := "state", format := State.format } <|
  .cons { key := "attributes", format := Attributes.format } <|
  .cons { key := "history", format := History.format } <|
  .cons { key := "version", format := .word64 } .nil

/-- The format of records. -/
def format : Format Record :=
  (fields.format "struct Record").transfer
    (fun (id, state, attributes, history, version, _) =>
      { id, state, attributes, history, version })
    (fun record =>
      (record.id, record.state, record.attributes, record.history, record.version, ()))

end Record

end Lifecycle
