import Lifecycle.Document.Record
import Lifecycle.Snapshot

/-!
# Snapshots as documents

A snapshot as a text without white space: an object of the version of the format, the moment and
the record.
-/

namespace Lifecycle

open Json (Fields Format)

namespace Snapshot

/-- The fields of a snapshot. -/
def fields : Fields [UInt32, Time.Instant, Record] :=
  .cons { key := "version", format := .word32 } <|
  .cons { key := "taken_at", format := Time.Instant.format } <|
  .cons { key := "record", format := Record.format } .nil

/-- The format of snapshots of any version. -/
def format : Format Snapshot :=
  (fields.format "struct RecordSnapshot").transfer
    (fun (version, takenAt, record, _) => { version, takenAt, record })
    (fun snapshot => (snapshot.version, snapshot.takenAt, snapshot.record, ()))

/-- Write a snapshot as text. -/
def toText (snapshot : Snapshot) : String :=
  format.compact snapshot

/-- Read a snapshot from text. -/
def ofText (document : String) : Except ReadError Snapshot :=
  match format.parse document with
  | .ok snapshot => snapshot.checkVersion
  | .error error => .error (.unreadable error.message)

end Snapshot

end Lifecycle
