import Lifecycle.Record

/-!
# Snapshots

A snapshot is a copy of a record at a moment, marked with the version of its format. Snapshots are
written in two formats, as text and as bytes; reading either accepts only the supported version,
and looks at the version only after everything else was read.
-/

namespace Lifecycle

open Time (Instant)

/-- A copy of a record at a moment. -/
structure Snapshot where
  /-- The version of the format. -/
  version : UInt32
  /-- The moment at which the snapshot was taken. -/
  takenAt : Instant
  /-- The record, its history included. -/
  record : Record
deriving DecidableEq, Repr

namespace Snapshot

/-- The version of the format that is written and read. -/
def supportedVersion : UInt32 := 1

/-- Why no snapshot can be read. -/
inductive ReadError where
  /-- The document is no snapshot. -/
  | unreadable (reason : String)
  /-- The snapshot has a version that is not supported. -/
  | unsupportedVersion (found : UInt32)
deriving DecidableEq, Repr

namespace ReadError

/-- The error in words. -/
def message : ReadError → String
  | unreadable reason => "Deserialization failed: " ++ reason
  | unsupportedVersion found =>
    "Unsupported snapshot version " ++ toString found.toNat ++ ", supported: " ++
      toString supportedVersion.toNat

end ReadError

/-- Take a snapshot of a record. -/
def take (record : Record) (takenAt : Instant) : Snapshot where
  version := supportedVersion
  takenAt := takenAt
  record := record

/-- The snapshot, if its version is supported. -/
def checkVersion (snapshot : Snapshot) : Except ReadError Snapshot :=
  if snapshot.version = supportedVersion then .ok snapshot
  else .error (.unsupportedVersion snapshot.version)

theorem checkVersion_eq_ok_iff {snapshot found : Snapshot} :
    snapshot.checkVersion = .ok found ↔ snapshot = found ∧ found.version = supportedVersion := by
  unfold checkVersion
  split
  · next hversion =>
    constructor
    · rintro ⟨⟩
      exact ⟨rfl, hversion⟩
    · rintro ⟨rfl, -⟩
      rfl
  · next hversion =>
    constructor
    · exact fun h => nomatch h
    · rintro ⟨rfl, hsupported⟩
      exact absurd hsupported hversion

end Snapshot

end Lifecycle
