import Lifecycle.Binary.Snapshot
import Lifecycle.Proofs.Binary.RoundTrip
import Lifecycle.Proofs.Record.Attributes
import Lifecycle.Proofs.Time.RoundTrip
import Lifecycle.Proofs.Uuid.RoundTrip

/-!
# Snapshots survive as bytes

The binary formats of records and of everything in them are lawful. So reading the bytes of a
snapshot gives the snapshot, unless its version is not supported.
-/

namespace Lifecycle

open Binary (Format)

theorem Uuid.lawful_binary : Uuid.binary.Lawful fun _ => True :=
  Format.lawful_block (fun uuid => by rw [parseBytes_toBytes]; rfl) fun uuid => by
    rw [toBytes, List.length_map, List.length_range]
    decide

theorem Time.Instant.fits_text (instant : Instant) : Text.Fits instant.text := by
  have hlength := Rfc3339.length_write_le instant
  have hsize := Text.Utf8.size_le instant.write
  rw [Text.Fits, text, String.toList_ofList]
  omega

theorem Time.Instant.lawful_binary : Time.Instant.binary.Lawful fun _ => True :=
  Format.lawful_text (fun instant => by rw [parse_text]; rfl) fits_text

theorem State.lawful_binary : State.binary.Lawful fun state => Text.Fits state.name :=
  Format.lawful_string.transfer (fun _ => rfl) (fun _ => Iff.rfl) fun _ hname => hname

theorem Attributes.lawful_binary : Attributes.binary.Lawful Attributes.Fits :=
  (Format.lawful_string.pair Format.lawful_string).list.transfer ofList_entries
    (fun _ => ⟨fun h => ⟨h.length_lt, h.entries⟩, fun h => ⟨h.1, h.2⟩⟩)
    -- repeated names leave fewer entries than were read
    fun _ hentries => fits_ofList hentries.1 hentries.2

theorem Step.lawful_binary : Step.binary.Lawful Step.Fits :=
  (Format.lawful_string.pair <| State.lawful_binary.pair <| State.lawful_binary.pair <|
    Time.Instant.lawful_binary.pair Format.lawful_boolean).transfer (fun _ => rfl)
    (fun _ => ⟨fun h => ⟨h.transition, h.origin, h.target, trivial, trivial⟩,
      fun h => ⟨h.1, h.2.1, h.2.2.1⟩⟩)
    fun _ h => ⟨h.1, h.2.1, h.2.2.1⟩

theorem History.lawful_binary : History.binary.Lawful History.Fits :=
  Step.lawful_binary.list.transfer (fun _ => rfl)
    (fun _ => ⟨fun h => ⟨h.length_lt, h.steps⟩, fun h => ⟨h.1, h.2⟩⟩) fun _ h => ⟨h.1, h.2⟩

theorem Record.lawful_binary : Record.binary.Lawful Record.Fits :=
  (Uuid.lawful_binary.pair <| State.lawful_binary.pair <| Attributes.lawful_binary.pair <|
    History.lawful_binary.pair Format.lawful_word64).transfer (fun _ => rfl)
    (fun _ => ⟨fun h => ⟨trivial, h.state, h.attributes, h.history, trivial⟩,
      fun h => ⟨h.2.1, h.2.2.1, h.2.2.2.1⟩⟩)
    fun _ h => ⟨h.2.1, h.2.2.1, h.2.2.2.1⟩

namespace Snapshot

variable {snapshot : Snapshot}

/-- Snapshots are read back. -/
theorem lawful_binary : binary.Lawful fun snapshot => snapshot.record.Fits :=
  (Format.lawful_word32.pair <| Time.Instant.lawful_binary.pair Record.lawful_binary).transfer
    (fun _ => rfl) (fun _ => ⟨fun h => ⟨trivial, trivial, h⟩, fun h => h.2.2⟩) fun _ h => h.2.2

/-- Reading the bytes of a snapshot, whatever follows them, gives the snapshot if its version is
supported. -/
theorem ofBytes_append (hfits : snapshot.record.Fits) (rest : List UInt8) :
    ofBytes (snapshot.toBytes ++ rest) = snapshot.checkVersion := by
  rw [ofBytes, toBytes, lawful_binary.parse_write hfits]

/-- Reading the bytes of a snapshot gives the snapshot if its version is supported. -/
theorem ofBytes_toBytes (hfits : snapshot.record.Fits) :
    ofBytes snapshot.toBytes = snapshot.checkVersion := by
  rw [← ofBytes_append hfits [], List.append_nil]

/-- What is read from bytes was counted in words, and so can be written again. -/
theorem fits_of_ofBytes {bytes : List UInt8} (hread : ofBytes bytes = .ok snapshot) :
    snapshot.record.Fits := by
  rw [ofBytes] at hread
  split at hread
  · next found hparse =>
    rw [← (checkVersion_eq_ok_iff.1 hread).1]
    exact lawful_binary.fits_of_parse hparse
  · exact nomatch hread

/-- A record that is restored from a snapshot of it as bytes is the record. -/
theorem record_of_ofBytes {record : Record} {takenAt : Time.Instant} {snapshot : Snapshot}
    (hlength : (take record takenAt).toBytes.length < 2 ^ 64)
    (hread : ofBytes (take record takenAt).toBytes = .ok snapshot) : snapshot.record = record := by
  have hversion : (take record takenAt).checkVersion = .ok (take record takenAt) := if_pos rfl
  have hfits := lawful_binary.fits_of_length _ hlength
  rw [ofBytes_toBytes hfits, hversion] at hread
  rw [← Except.ok.inj hread]
  rfl

end Snapshot

end Lifecycle
