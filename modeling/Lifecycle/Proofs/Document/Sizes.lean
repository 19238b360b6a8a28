import Lifecycle.Document.Snapshot
import Lifecycle.Proofs.Json.Fitting

/-!
# Sizes of what documents hold

A document whose bytes can be counted in a word holds a record that fits: no text of the record is
longer than the document, and no list has more items than the document has characters.
-/

namespace Lifecycle

open Json (Fields Format)

theorem Uuid.fitting_format : Uuid.format.read.Fitting fun _ => True :=
  Format.fitting_text text fun _ _ _ _ => trivial

theorem Time.Instant.fitting_format : Time.Instant.format.read.Fitting fun _ => True :=
  Format.fitting_text text fun _ _ _ _ => trivial

theorem State.fitting_format : State.format.read.Fitting fun state => Text.Fits state.name :=
  Format.fitting_transfer Format.fitting_string fun _ hname => hname

theorem Attributes.fitting_format : Attributes.format.read.Fitting Attributes.Fits := by
  -- so many names were met, and no more entries were made of them
  let Inv (count : Nat) (attributes : Attributes) : Prop :=
    attributes.entries.length ≤ count ∧ ∀ entry ∈ attributes.entries, EntryFits entry
  have hempty : Inv 0 empty := ⟨Nat.le_refl 0, fun _ hentry => nomatch hentry⟩
  have hinsert {count : Nat} {name text : String} {attributes : Attributes}
      (hname : Text.Fits name) (htext : Text.Fits text) (hattributes : Inv count attributes) :
      Inv (count + 1) (attributes.insert name text) := by
    obtain ⟨hlength, hentries⟩ := hattributes
    refine ⟨Nat.le_trans (length_insert_le attributes name text) (Nat.succ_le_succ hlength), ?_⟩
    intro entry hentry
    rcases mem_insert hentry with rfl | hbefore
    · exact ⟨hname, htext⟩
    · exact hentries entry hbefore
  refine (Format.fitting_string.mapping Inv hempty hinsert).mono ?_
  rintro attributes ⟨count, hcount, hlength, hentries⟩
  exact ⟨Nat.lt_of_le_of_lt hlength hcount, hentries⟩

theorem Step.fitting_format : Step.format.read.Fitting Step.Fits := by
  have hfields : fields.Fitting _ _ :=
    .required Format.fitting_string rfl <| .required State.fitting_format rfl <|
    .required State.fitting_format rfl <| .required Time.Instant.fitting_format rfl <|
    .required Format.fitting_boolean rfl .nil
  refine Format.fitting_transfer (hfields.read "struct StateTransition") fun row hrow => ?_
  obtain ⟨htransition, horigin, htarget, -⟩ := hrow
  exact ⟨htransition, horigin, htarget⟩

theorem History.fitting_format : History.format.read.Fitting History.Fits := by
  have hfields : fields.Fitting _ _ := .required (Format.fitting_list Step.fitting_format) rfl .nil
  refine Format.fitting_transfer (hfields.read "struct StateHistory") fun row hrow => ?_
  obtain ⟨⟨hlength, hsteps⟩, -⟩ := hrow
  exact ⟨hlength, hsteps⟩

theorem Record.fitting_format : Record.format.read.Fitting Record.Fits := by
  have hfields : fields.Fitting _ _ :=
    .required Uuid.fitting_format rfl <| .required State.fitting_format rfl <|
    .required Attributes.fitting_format rfl <| .required History.fitting_format rfl <|
    .required Format.fitting_word64 rfl .nil
  refine Format.fitting_transfer (hfields.read "struct Record") fun row hrow => ?_
  obtain ⟨-, hstate, hattributes, hhistory, -⟩ := hrow
  exact ⟨hstate, hattributes, hhistory⟩

namespace Snapshot

theorem fitting_format : format.read.Fitting fun snapshot => snapshot.record.Fits := by
  have hfields : fields.Fitting _ _ :=
    .required Format.fitting_word32 rfl <| .required Time.Instant.fitting_format rfl <|
    .required Record.fitting_format rfl .nil
  refine Format.fitting_transfer (hfields.read "struct RecordSnapshot") fun row hrow => ?_
  exact hrow.2.2.1

/-- What is read from a document fits if the bytes of the document can be counted. -/
theorem fits_of_ofText {document : String} {snapshot : Snapshot} (hdocument : Text.Fits document)
    (hread : ofText document = .ok snapshot) : snapshot.record.Fits := by
  rw [ofText] at hread
  split at hread
  · next found hparse =>
    rw [← (checkVersion_eq_ok_iff.1 hread).1]
    exact Format.fits_of_parse fitting_format hdocument found hparse
  · exact nomatch hread

end Snapshot

end Lifecycle
