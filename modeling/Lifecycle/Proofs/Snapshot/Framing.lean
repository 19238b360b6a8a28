import Lifecycle.Proofs.Binary.Framing
import Lifecycle.Proofs.Binary.Snapshot
import Lifecycle.Proofs.Document.Snapshot
import Lifecycle.Proofs.Json.Framing
import Lifecycle.Proofs.Machine.Building
import Lifecycle.Proofs.Snapshot.Wire

/-!
# Snapshots that are cut short or followed by something

Neither format takes a part of a snapshot for a snapshot: wherever the writing broke off, reading
finds no snapshot at all, and so no version either. Behind a snapshot the formats differ. Bytes are
ignored, while a document may only be followed by white space.
-/

namespace Lifecycle

/-! ### Bytes -/

section Bytes

open Binary (Extensible)
open Binary.Format

theorem Attributes.extensible_binary : Extensible Attributes.binary.read :=
  extensible_transfer (extensible_list (extensible_pair extensible_string extensible_string)) _ _

theorem State.extensible_binary : Extensible State.binary.read :=
  extensible_transfer extensible_string _ _

theorem Step.extensible_binary : Extensible Step.binary.read := by
  refine extensible_transfer (extensible_pair extensible_string ?_) _ _
  refine extensible_pair State.extensible_binary (extensible_pair State.extensible_binary ?_)
  exact extensible_pair (extensible_text _ _) extensible_boolean

theorem History.extensible_binary : Extensible History.binary.read :=
  extensible_transfer (extensible_list Step.extensible_binary) _ _

theorem Record.extensible_binary : Extensible Record.binary.read := by
  refine extensible_transfer (extensible_pair (extensible_block _ _) ?_) _ _
  refine extensible_pair State.extensible_binary (extensible_pair Attributes.extensible_binary ?_)
  exact extensible_pair History.extensible_binary extensible_word64

theorem Snapshot.extensible_binary : Extensible Snapshot.binary.read := by
  refine extensible_transfer (extensible_pair extensible_word32 ?_) _ _
  exact extensible_pair (extensible_text _ _) Record.extensible_binary

end Bytes

/-! ### Documents -/

section Documents

open Json (Fields Left)
open Json.Format

variable {Enough : List Char → Prop}

theorem State.framed_format : State.format.read.Framed Left :=
  framed_transfer framed_string _ _

theorem Attributes.framed_format : Attributes.format.read.Framed Left :=
  framed_string.mapping empty fun name text attributes => attributes.insert name text

theorem Step.framed_format : Step.format.read.Framed Left := by
  have hfields : fields.Framed :=
    .cons framed_string <| .cons State.framed_format <| .cons State.framed_format <|
    .cons (framed_text _ _ _) <| .cons framed_boolean .nil
  exact framed_transfer (hfields.read "struct StateTransition") _ _

theorem History.framed_format : History.format.read.Framed Left := by
  have hfields : fields.Framed := .cons (framed_list Step.framed_format) .nil
  exact framed_transfer (hfields.read "struct StateHistory") _ _

theorem Record.framed_format : Record.format.read.Framed Left := by
  have hfields : fields.Framed :=
    .cons (framed_text _ _ _) <| .cons State.framed_format <| .cons Attributes.framed_format <|
    .cons History.framed_format <| .cons framed_word64 .nil
  exact framed_transfer (hfields.read "struct Record") _ _

/-- A snapshot ends with its bracket, so that nothing has to be left behind it. -/
theorem Snapshot.framed_format : Snapshot.format.read.Framed Enough := by
  have hfields : fields.Framed :=
    .cons framed_word32 <| .cons (framed_text _ _ _) <| .cons Record.framed_format .nil
  exact framed_transfer (hfields.read "struct RecordSnapshot") _ _

end Documents

namespace Snapshot

/-- Nothing was read that could be a snapshot, of whatever version. -/
def Unreadable (result : Except ReadError Snapshot) : Prop :=
  ∃ reason, result = .error (.unreadable reason)

theorem unreadable_ofBytes {bytes : List UInt8}
    (h : ∀ found, binary.parse bytes ≠ .ok found) : Unreadable (ofBytes bytes) := by
  rw [ofBytes]
  split
  · next found hparse => exact absurd hparse (h found)
  · next error _ => exact ⟨error.message, rfl⟩

theorem unreadable_ofText {document : String} (h : ∀ found, format.parse document ≠ .ok found) :
    Unreadable (ofText document) := by
  rw [ofText]
  split
  · next found hparse => exact absurd hparse (h found)
  · next error _ => exact ⟨error.message, rfl⟩

/-- Bytes behind a snapshot are ignored, whoever wrote it. -/
theorem ofBytes_append_of_ok {bytes : List UInt8} {snapshot : Snapshot}
    (hread : ofBytes bytes = .ok snapshot) (tail : List UInt8) :
    ofBytes (bytes ++ tail) = .ok snapshot := by
  rw [ofBytes] at hread ⊢
  split at hread
  · next found hparse =>
    rw [Binary.Format.parse_append extensible_binary hparse]
    exact hread
  · cases hread

/-- Only white space may follow the text of a snapshot. -/
theorem ofText_append (snapshot : Snapshot) (tail : String) :
    ofText (snapshot.toText ++ tail) =
      if (Text.skipInsignificant tail.toList).isEmpty then snapshot.checkVersion
      else .error (.unreadable Json.Error.trailingCharacters.message) := by
  have hparse : format.parse snapshot.toText = .ok snapshot :=
    lawful_format.parse_write Json.Layout.readable_compact (by decide) snapshot
  rw [ofText, Json.Format.parse_append framed_format hparse]
  by_cases hspace : (Text.skipInsignificant tail.toList).isEmpty = true
  · rw [if_pos hspace, if_pos hspace]
  · rw [if_neg hspace, if_neg hspace]

/-- Whatever its version, a snapshot that is cut short is unreadable in both formats. In bytes this
is said of records that fit, whose lengths can be counted in words. What follows the bytes of a
snapshot changes nothing, and what follows its text makes it unreadable if it is more than white
space. -/
theorem framing :
    (∀ snapshot : Snapshot, snapshot.record.Fits → ∀ kept lost : List UInt8, lost ≠ [] →
      kept ++ lost = snapshot.toBytes → Unreadable (ofBytes kept)) ∧
    (∀ (snapshot : Snapshot) (kept lost : String), lost ≠ "" →
      kept ++ lost = snapshot.toText → Unreadable (ofText kept)) ∧
    (∀ bytes snapshot, ofBytes bytes = .ok snapshot →
      ∀ tail, ofBytes (bytes ++ tail) = .ok snapshot) ∧
    ∀ (snapshot : Snapshot) (tail : String),
      (∃ c ∈ tail.toList, c ≠ ' ' ∧ c ≠ '\t' ∧ c ≠ '\n' ∧ c ≠ '\r') →
        Unreadable (ofText (snapshot.toText ++ tail)) := by
  refine ⟨?_, ?_, ?_, ?_⟩
  · intro snapshot hfits kept lost hlost hcut
    exact unreadable_ofBytes (lawful_binary.not_parse_of_cut extensible_binary hfits hlost hcut)
  · intro snapshot kept lost hlost hcut
    exact unreadable_ofText (lawful_format.not_parse_of_cut framed_format
      Json.Layout.readable_compact (by decide) hlost hcut)
  · intro bytes snapshot hread tail
    exact ofBytes_append_of_ok hread tail
  · rintro snapshot tail ⟨c, hc, hspace, htab, hfeed, hreturn⟩
    -- the four characters are those that a document ignores
    have hmore : ¬ (Text.skipInsignificant tail.toList).isEmpty = true := by
      intro hempty
      have hinsignificant := Json.Format.isEmpty_skip_iff.1 hempty c hc
      simp [Text.isInsignificant, hspace, htab, hfeed, hreturn] at hinsignificant
    rw [ofText_append, if_neg hmore]
    exact ⟨_, rfl⟩

/-- A delivery whose snapshot is cut after ten bytes and after twenty characters. Its version is not
supported, but that does not show. -/
theorem framing_delivery :
    let later : Snapshot := { take (Record.create .delivery (.ofNat 1)) .epoch with version := 2 }
    let snapshot := take (Record.create .delivery (.ofNat 1)) .epoch
    Unreadable (ofBytes (later.toBytes.take 10)) ∧
      Unreadable (ofText (String.ofList (later.toText.toList.take 20))) ∧
      ofBytes (snapshot.toBytes ++ [0, 1]) = .ok snapshot ∧
      Unreadable (ofText (snapshot.toText ++ "\n]")) := by
  intro later snapshot
  obtain ⟨hbytes, htext, htail, hfollowed⟩ := framing
  have hlater : later.record.Fits := by decide
  have hfits : snapshot.record.Fits := by decide
  have hbytesLeft : later.toBytes.drop 10 ≠ [] := by
    rw [Wire.Bytes.toBytes_eq]
    decide +kernel
  have htextLeft : String.ofList (later.toText.toList.drop 20) ≠ "" := by
    rw [Wire.Document.toText_eq, String.toList_ofList]
    decide +kernel
  have hcut : String.ofList (later.toText.toList.take 20) ++
      String.ofList (later.toText.toList.drop 20) = later.toText := by
    rw [← String.ofList_append, List.take_append_drop, String.ofList_toList]
  have hread : ofBytes snapshot.toBytes = .ok snapshot := by
    rw [ofBytes_toBytes hfits]
    rfl
  exact ⟨hbytes later hlater _ _ hbytesLeft (List.take_append_drop 10 _),
    htext later _ _ htextLeft hcut, htail _ snapshot hread [0, 1],
    hfollowed snapshot "\n]" ⟨']', by simp, by decide⟩⟩

end Snapshot

end Lifecycle
