import Lifecycle.Binary.Format
import Lifecycle.Snapshot
import Lifecycle.Time.Rfc3339

/-!
# Snapshots as bytes

The fields of a snapshot in order, down to the steps of the history. An identifier is its sixteen
bytes behind their number, and a moment is its text. Bytes behind the snapshot are ignored.
-/

namespace Lifecycle

open Binary (Format)

namespace Uuid

/-- The binary format of identifiers. -/
def binary : Format Uuid :=
  .block (fun bytes => (parseBytes bytes).mapError ReadError.message) toBytes

end Uuid

namespace Time.Instant

/-- The binary format of moments. -/
def binary : Format Instant :=
  .text (fun content => (parse content).mapError ReadError.message) text

end Time.Instant

namespace State

/-- The binary format of states. -/
def binary : Format State :=
  Format.string.transfer State.mk State.name

end State

namespace Attributes

/-- The binary format of attributes. When a name is repeated, the last text counts. -/
def binary : Format Attributes :=
  (Format.list (.pair .string .string)).transfer ofList entries

end Attributes

namespace Step

/-- The binary format of steps. -/
def binary : Format Step :=
  (Format.pair .string <| .pair State.binary <| .pair State.binary <|
    .pair Time.Instant.binary .boolean).transfer
    (fun (transition, origin, target, time, recovery) =>
      { transition, origin, target, time, recovery })
    (fun step => (step.transition, step.origin, step.target, step.time, step.recovery))

end Step

namespace History

/-- The binary format of histories. -/
def binary : Format History :=
  (Format.list Step.binary).transfer (fun steps => { steps }) steps

end History

namespace Record

/-- The binary format of records. -/
def binary : Format Record :=
  (Format.pair Uuid.binary <| .pair State.binary <| .pair Attributes.binary <|
    .pair History.binary .word64).transfer
    (fun (id, state, attributes, history, version) => { id, state, attributes, history, version })
    (fun record => (record.id, record.state, record.attributes, record.history, record.version))

end Record

namespace Snapshot

/-- The binary format of snapshots of any version. -/
def binary : Format Snapshot :=
  (Format.pair .word32 <| .pair Time.Instant.binary Record.binary).transfer
    (fun (version, takenAt, record) => { version, takenAt, record })
    (fun snapshot => (snapshot.version, snapshot.takenAt, snapshot.record))

/-- Write a snapshot as bytes. -/
def toBytes (snapshot : Snapshot) : List UInt8 :=
  binary.write snapshot

/-- Read a snapshot from bytes. -/
def ofBytes (bytes : List UInt8) : Except ReadError Snapshot :=
  match binary.parse bytes with
  | .ok snapshot => snapshot.checkVersion
  | .error error => .error (.unreadable error.message)

end Snapshot

end Lifecycle
