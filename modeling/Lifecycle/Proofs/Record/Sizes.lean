import Lifecycle.Snapshot
import Lifecycle.Text.Utf8
import Mathlib.Algebra.Group.Nat.Defs

/-!
# Sizes of records

The bytes of a text and the items of a list are counted in a word of 64 bits wherever they are kept
in memory. `Record.Fits` says so of everything in a record, which is what the binary format has to
know of it: a length is written as such a word. No bound on the record as a whole follows.
-/

namespace Lifecycle

/-- The bytes of the text can be counted in a word. -/
def Text.Fits (text : String) : Prop :=
  Text.Utf8.size text.toList < 2 ^ 64

/-- The bytes of both texts of an entry can be counted. -/
def Attributes.EntryFits (entry : String × String) : Prop :=
  Text.Fits entry.1 ∧ Text.Fits entry.2

/-- The entries can be counted in a word, and the bytes of each of them too. -/
structure Attributes.Fits (attributes : Attributes) : Prop where
  length_lt : attributes.entries.length < 2 ^ 64
  entries : ∀ entry ∈ attributes.entries, EntryFits entry

structure Step.Fits (step : Step) : Prop where
  transition : Text.Fits step.transition
  origin : Text.Fits step.origin.name
  target : Text.Fits step.target.name

/-- The steps can be counted in a word, and the bytes of the texts of each of them too. -/
structure History.Fits (history : History) : Prop where
  length_lt : history.steps.length < 2 ^ 64
  steps : ∀ step ∈ history.steps, step.Fits

/-- Whatever a record holds can be counted in words. -/
structure Record.Fits (record : Record) : Prop where
  state : Text.Fits record.state.name
  attributes : record.attributes.Fits
  history : record.history.Fits

/-! ### Deciding -/

instance (text : String) : Decidable (Text.Fits text) :=
  inferInstanceAs (Decidable (_ < _))

instance (entry : String × String) : Decidable (Attributes.EntryFits entry) :=
  inferInstanceAs (Decidable (_ ∧ _))

instance (attributes : Attributes) : Decidable attributes.Fits :=
  decidable_of_iff (attributes.entries.length < 2 ^ 64 ∧
      ∀ entry ∈ attributes.entries, Attributes.EntryFits entry)
    ⟨fun h => ⟨h.1, h.2⟩, fun h => ⟨h.length_lt, h.entries⟩⟩

instance (step : Step) : Decidable step.Fits :=
  decidable_of_iff
    (Text.Fits step.transition ∧ Text.Fits step.origin.name ∧ Text.Fits step.target.name)
    ⟨fun h => ⟨h.1, h.2.1, h.2.2⟩, fun h => ⟨h.transition, h.origin, h.target⟩⟩

instance (history : History) : Decidable history.Fits :=
  decidable_of_iff (history.steps.length < 2 ^ 64 ∧ ∀ step ∈ history.steps, step.Fits)
    ⟨fun h => ⟨h.1, h.2⟩, fun h => ⟨h.length_lt, h.steps⟩⟩

instance (record : Record) : Decidable record.Fits :=
  decidable_of_iff
    (Text.Fits record.state.name ∧ record.attributes.Fits ∧ record.history.Fits)
    ⟨fun h => ⟨h.1, h.2.1, h.2.2⟩, fun h => ⟨h.state, h.attributes, h.history⟩⟩

/-! ### Attributes -/

namespace Attributes

variable {attributes : Attributes} {name text : String}

theorem length_place_le (name text : String) (entries : List (String × String)) :
    (place name text entries).length ≤ entries.length + 1 := by
  induction entries with
  | nil => exact Nat.le_refl _
  | cons entry entries ih =>
    rw [place]
    split
    · exact Nat.le_refl _
    · split
      · exact Nat.le_succ _
      · exact Nat.succ_le_succ ih

theorem length_insert_le (attributes : Attributes) (name text : String) :
    (attributes.insert name text).entries.length ≤ attributes.entries.length + 1 :=
  length_place_le name text attributes.entries

theorem mem_insert {entry : String × String} (h : entry ∈ (attributes.insert name text).entries) :
    entry = (name, text) ∨ entry ∈ attributes.entries :=
  mem_place h

/-- Writing entries one after the other leaves no others, and at most as many. -/
theorem foldl_insert (entries : List (String × String)) (attributes : Attributes) :
    let after := entries.foldl (fun attributes entry => attributes.insert entry.1 entry.2) attributes
    after.entries.length ≤ attributes.entries.length + entries.length ∧
      ∀ entry ∈ after.entries, entry ∈ attributes.entries ∨ entry ∈ entries := by
  induction entries generalizing attributes with
  | nil => exact ⟨Nat.le_refl _, fun entry hentry => .inl hentry⟩
  | cons entry entries ih =>
    obtain ⟨hlength, hmem⟩ := ih (attributes.insert entry.1 entry.2)
    have hfirst := attributes.length_insert_le entry.1 entry.2
    constructor
    · simp only [List.foldl_cons, List.length_cons] at hlength ⊢
      omega
    · intro other hother
      rcases hmem other hother with hinserted | hlater
      · rcases mem_insert hinserted with rfl | hbefore
        · exact .inr List.mem_cons_self
        · exact .inl hbefore
      · exact .inr (List.mem_cons_of_mem _ hlater)

/-- The attributes that entries make fit when the entries do. -/
theorem fits_ofList {entries : List (String × String)} (hlength : entries.length < 2 ^ 64)
    (hentries : ∀ entry ∈ entries, EntryFits entry) : (ofList entries).Fits := by
  obtain ⟨hcount, hmem⟩ := foldl_insert entries empty
  constructor
  · exact Nat.lt_of_le_of_lt hcount (by simpa [empty] using hlength)
  · intro entry hentry
    rcases hmem entry hentry with hnone | hgiven
    · exact nomatch hnone
    · exact hentries entry hgiven

end Attributes

end Lifecycle
