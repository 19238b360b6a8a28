import Lifecycle.Document.Snapshot
import Lifecycle.Proofs.Json.Objects
import Lifecycle.Proofs.Record.Attributes
import Lifecycle.Proofs.Time.RoundTrip
import Lifecycle.Proofs.Uuid.RoundTrip

/-!
# Snapshots survive as documents

The formats of records and of everything in them are lawful, up to five brackets deep. So reading
the text of a snapshot gives the snapshot, unless its version is not supported.
-/

namespace Lifecycle

open Json (Fields Format)

/-- One more field before others, always written. -/
theorem Json.Fields.Lawful.field {field : Json.Field τ} {fields : Fields τs} {height : Nat}
    (hfields : fields.Lawful height) (hformat : field.format.Lawful height)
    (hkey : field.key ∉ fields.keys) (homitted : ∀ value, field.omitted value = false) :
    (Fields.cons field fields).Lawful height := by
  refine .cons hformat (fun value hvalue => ?_) hkey hfields
  rw [homitted value] at hvalue
  exact absurd hvalue Bool.false_ne_true

theorem Uuid.lawful_format : Uuid.format.Lawful 0 :=
  Format.lawful_text fun uuid => by rw [parse_text]; rfl

theorem Time.Instant.lawful_format : Time.Instant.format.Lawful 0 :=
  Format.lawful_text fun instant => by rw [parse_text]; rfl

theorem State.lawful_format : State.format.Lawful 0 :=
  Format.lawful_string.transfer fun _ => rfl

theorem Attributes.lawful_format : Attributes.format.Lawful 1 where
  read_write hlayout _ hdepth attributes level _ rest hspace _ := by
    have hread := Json.mapping_write Format.lawful_string hlayout hdepth level empty
      (fun name text attributes => attributes.insert name text) attributes.entries hspace rest
    have hsame := ofList_entries attributes
    rw [ofList] at hsame
    rwa [hsame] at hread
  isExact _ _ _ hreal := nomatch hreal

theorem Step.lawful_format : Step.format.Lawful 1 := by
  have hfields : fields.Lawful 0 := by
    refine .field ?_ Format.lawful_string (by decide) fun _ => rfl
    refine .field ?_ State.lawful_format (by decide) fun _ => rfl
    refine .field ?_ State.lawful_format (by decide) fun _ => rfl
    refine .field ?_ Time.Instant.lawful_format (by decide) fun _ => rfl
    refine .field ?_ Format.lawful_boolean (by decide) fun _ => rfl
    exact .nil
  exact (hfields.format "struct StateTransition").transfer fun _ => rfl

theorem History.lawful_format : History.format.Lawful 3 := by
  have hfields : fields.Lawful 2 := by
    refine .field ?_ Step.lawful_format.list (by decide) fun _ => rfl
    exact .nil
  exact (hfields.format "struct StateHistory").transfer fun _ => rfl

theorem Record.lawful_format : Record.format.Lawful 4 := by
  have hfields : fields.Lawful 3 := by
    refine .field ?_ (Uuid.lawful_format.mono (by decide)) (by decide) fun _ => rfl
    refine .field ?_ (State.lawful_format.mono (by decide)) (by decide) fun _ => rfl
    refine .field ?_ (Attributes.lawful_format.mono (by decide)) (by decide) fun _ => rfl
    refine .field ?_ History.lawful_format (by decide) fun _ => rfl
    refine .field ?_ (Format.lawful_word64.mono (by decide)) (by decide) fun _ => rfl
    exact .nil
  exact (hfields.format "struct Record").transfer fun _ => rfl

namespace Snapshot

/-- Snapshots are read back. -/
theorem lawful_format : format.Lawful 5 := by
  have hfields : fields.Lawful 4 := by
    refine .field ?_ (Format.lawful_word32.mono (by decide)) (by decide) fun _ => rfl
    refine .field ?_ (Time.Instant.lawful_format.mono (by decide)) (by decide) fun _ => rfl
    refine .field ?_ Record.lawful_format (by decide) fun _ => rfl
    exact .nil
  exact (hfields.format "struct RecordSnapshot").transfer fun _ => rfl

/-- Reading the text of a snapshot gives the snapshot if its version is supported. -/
theorem ofText_toText (snapshot : Snapshot) : ofText snapshot.toText = snapshot.checkVersion := by
  have hparse : format.parse (format.compact snapshot) = .ok snapshot :=
    lawful_format.parse_write Json.Layout.readable_compact (by decide) snapshot
  rw [ofText, toText, hparse]

/-- A record that is restored from a snapshot of it as a document is the record. -/
theorem record_of_ofText {record : Record} {takenAt : Time.Instant} {snapshot : Snapshot}
    (hread : ofText (take record takenAt).toText = .ok snapshot) : snapshot.record = record := by
  have hversion : (take record takenAt).checkVersion = .ok (take record takenAt) := if_pos rfl
  rw [ofText_toText, hversion] at hread
  rw [← Except.ok.inj hread]
  rfl

end Snapshot

end Lifecycle
