import Lifecycle.Proofs.Binary.Snapshot
import Lifecycle.Proofs.Document.Sizes
import Lifecycle.Proofs.Document.Snapshot
import Lifecycle.Proofs.Machine.Building
import Lifecycle.Proofs.Snapshot.Wire

/-!
# Exchanging snapshots

A snapshot may go through either format any number of times. What is written is read back, unless
the version is not supported, and whatever a reader accepts, wherever it comes from, is found again
in both formats.
-/

namespace Lifecycle

namespace Snapshot

variable {snapshot : Snapshot}

/-- The version is supported, and the snapshot is read back from what either format writes. -/
structure Survives (snapshot : Snapshot) : Prop where
  version_eq : snapshot.version = supportedVersion
  ofText_eq : ofText snapshot.toText = .ok snapshot
  ofBytes_eq : ofBytes snapshot.toBytes = .ok snapshot

theorem checkVersion_of_eq (hversion : snapshot.version = supportedVersion) :
    snapshot.checkVersion = .ok snapshot :=
  if_pos hversion

theorem checkVersion_of_ne (hversion : snapshot.version ≠ supportedVersion) :
    snapshot.checkVersion = .error (.unsupportedVersion snapshot.version) :=
  if_neg hversion

theorem survives (hfits : snapshot.record.Fits) (hversion : snapshot.version = supportedVersion) :
    snapshot.Survives where
  version_eq := hversion
  ofText_eq := by rw [ofText_toText, checkVersion_of_eq hversion]
  ofBytes_eq := by rw [ofBytes_toBytes hfits, checkVersion_of_eq hversion]

/-- Neither reader accepts a version that is not supported. -/
theorem version_of_ofText {document : String} (hread : ofText document = .ok snapshot) :
    snapshot.version = supportedVersion := by
  rw [ofText] at hread
  split at hread
  · exact (checkVersion_eq_ok_iff.1 hread).2
  · cases hread

theorem version_of_ofBytes {bytes : List UInt8} (hread : ofBytes bytes = .ok snapshot) :
    snapshot.version = supportedVersion := by
  rw [ofBytes] at hread
  split at hread
  · exact (checkVersion_eq_ok_iff.1 hread).2
  · cases hread

/-- Both formats, written as `Wire` describes them, give back every snapshot of the supported
version and refuse every other one. What either of them accepts has the supported version and is
given back by both. -/
theorem round_trips :
    (∀ snapshot : Snapshot,
      snapshot.toText = String.ofList (Wire.Document.snapshot snapshot) ∧
        snapshot.toBytes = Wire.Bytes.snapshot snapshot) ∧
    (∀ snapshot : Snapshot, snapshot.version = supportedVersion →
      ofText snapshot.toText = .ok snapshot ∧
        (snapshot.record.Fits → ofBytes snapshot.toBytes = .ok snapshot)) ∧
    (∀ snapshot : Snapshot, snapshot.version ≠ supportedVersion →
      ofText snapshot.toText = .error (.unsupportedVersion snapshot.version) ∧
        (snapshot.record.Fits →
          ofBytes snapshot.toBytes = .error (.unsupportedVersion snapshot.version))) ∧
    (∀ document snapshot, Text.Fits document → ofText document = .ok snapshot →
      snapshot.Survives) ∧
    ∀ bytes snapshot, ofBytes bytes = .ok snapshot → snapshot.Survives := by
  refine ⟨?_, ?_, ?_, ?_, ?_⟩
  · intro snapshot
    exact ⟨Wire.Document.toText_eq snapshot, Wire.Bytes.toBytes_eq snapshot⟩
  · intro snapshot hversion
    rw [ofText_toText, checkVersion_of_eq hversion]
    refine ⟨rfl, fun hfits => ?_⟩
    rw [ofBytes_toBytes hfits, checkVersion_of_eq hversion]
  · intro snapshot hversion
    rw [ofText_toText, checkVersion_of_ne hversion]
    refine ⟨rfl, fun hfits => ?_⟩
    rw [ofBytes_toBytes hfits, checkVersion_of_ne hversion]
  · intro document snapshot hdocument hread
    exact survives (fits_of_ofText hdocument hread) (version_of_ofText hread)
  · intro bytes snapshot hread
    exact survives (fits_of_ofBytes hread) (version_of_ofBytes hread)

/-- A delivery with quotes and an umlaut among its attributes, confirmed once. -/
theorem round_trips_delivery :
    let record := (Record.create .delivery (.ofNat 1)).setAttribute "note" "say \"für\""
    let snapshot := take (record.apply "confirm" ⟨"confirmed"⟩ false .epoch) .epoch
    let later : Snapshot := { snapshot with version := 2 }
    snapshot.record.Fits ∧ Text.Fits snapshot.toText ∧
      ofText snapshot.toText = .ok snapshot ∧ ofBytes snapshot.toBytes = .ok snapshot ∧
      ofBytes later.toBytes = .error (.unsupportedVersion 2) ∧ snapshot.Survives := by
  intro record snapshot later
  obtain ⟨-, hsupported, hunsupported, hdocuments, -⟩ := round_trips
  have hfits : snapshot.record.Fits := by decide
  have hlater : later.version ≠ supportedVersion := by decide
  have hdocument : Text.Fits snapshot.toText := by
    rw [Wire.Document.toText_eq, Text.Fits, String.toList_ofList]
    decide +kernel
  obtain ⟨hfromText, hfromBytes⟩ := hsupported snapshot rfl
  exact ⟨hfits, hdocument, hfromText, hfromBytes hfits, (hunsupported later hlater).2 hfits,
    hdocuments snapshot.toText snapshot hdocument hfromText⟩

end Snapshot

end Lifecycle
