import Lifecycle.Json.Format
import Lifecycle.Proofs.Json.Sizes
import Lifecycle.Proofs.Record.Sizes

/-!
# Values of documents that can be counted

A document whose bytes can be counted in a word holds only values whose parts can be counted.
`Reader.Fitting` says so of a reader, and is kept by every way to make readers of others: an item of
an array and a member of an object take at least one character, so that there are no more of them
than characters.
-/

namespace Lifecycle

namespace Json

open Lifecycle.Except (Ensures ensures_error ensures_ok ensures_true)

/-- What is read from a counted document fits, and leaves a counted document. -/
def Reader.Fitting (read : Reader α) (Fits : α → Prop) : Prop :=
  ∀ depth {document : List Char}, Counted document →
    Ensures (read depth document) fun found => Fits found.1 ∧ Counted found.2

variable {document : List Char} {Fits : α → Prop}

namespace Reader

theorem Fitting.mono {read : Reader α} (h : read.Fitting Fits) {Weaker : α → Prop}
    (himp : ∀ value, Fits value → Weaker value) : read.Fitting Weaker :=
  fun depth _ hdocument => (h depth hdocument).mono fun _ hfound => ⟨himp _ hfound.1, hfound.2⟩

/-! ### Scalars -/

/-- A text is read as what its content means. -/
theorem fitting_text {expected : String} {meaning : String → Except String α}
    (hmeaning : ∀ content, Text.Fits content → Ensures (meaning content) Fits) :
    (text expected meaning).Fitting Fits := by
  intro depth document hdocument
  unfold text
  split
  · next hskip =>
    refine (counted_readString (hdocument.behind hskip)).bind fun found hfound => ?_
    dsimp only
    split
    · next value hvalue => exact ensures_ok ⟨hmeaning found.1 hfound.1 value hvalue, hfound.2⟩
    · exact ensures_error _
  · exact ensures_error _

theorem fitting_boolean : boolean.Fitting fun _ => True := by
  intro depth document hdocument
  unfold boolean
  split
  · next hskip => exact (counted_readWord _ (hdocument.behind hskip)).map fun _ h => ⟨trivial, h⟩
  · next hskip => exact (counted_readWord _ (hdocument.behind hskip)).map fun _ h => ⟨trivial, h⟩
  · exact ensures_error _

theorem fitting_natural (expected : String) (bound : Nat) :
    (natural expected bound).Fitting fun _ => True := by
  intro depth document hdocument
  unfold natural
  split
  · exact ensures_error _
  · next c rest hskip =>
    split
    · have hnumber := counted_readNumeral (hskip ▸ hdocument.skipInsignificant)
      refine hnumber.bind fun found hrest => ?_
      dsimp only
      split
      · split
        · exact ensures_ok ⟨trivial, hrest⟩
        · exact ensures_error _
      · exact ensures_error _
    · exact ensures_error _

/-! ### Arrays -/

theorem counted_nextItem (first : Bool) (h : Counted document) :
    Ensures (nextItem first document) fun next => ∀ rest ∈ next, Counted rest := by
  unfold nextItem
  split
  · exact ensures_error _
  · next c rest hskip =>
    split
    · -- the array ends
      exact ensures_ok fun _ hrest => nomatch hrest
    · split
      · -- the first item begins at once, and any other one behind a comma
        refine ensures_ok ?_
        rintro _ ⟨⟩
        exact hskip ▸ h.skipInsignificant
      · split
        · split
          · exact ensures_error _
          · next d after hafter =>
            split
            · exact ensures_error _
            · refine ensures_ok ?_
              rintro _ ⟨⟩
              exact hafter ▸ (h.behind hskip).skipInsignificant
        · exact ensures_error _

/-- There are fewer items than the fuel allows for. -/
theorem fitting_items {read : List Char → Except Error (α × List Char)}
    (hread : ∀ {document}, Counted document →
      Ensures (read document) fun found => Fits found.1 ∧ Counted found.2)
    (fuel : Nat) (first : Bool) (h : Counted document) :
    Ensures (items read fuel first document) fun found =>
      (found.1.length < fuel ∧ ∀ value ∈ found.1, Fits value) ∧ Counted found.2 := by
  -- each item takes one unit of fuel, and the end of the array the last one
  induction fuel generalizing first document with
  | zero => exact ensures_error _
  | succ fuel ih =>
    refine (counted_nextItem first h).bind fun next hnext => ?_
    cases next with
    | none => exact ensures_ok ⟨⟨Nat.succ_pos fuel, fun _ hvalue => nomatch hvalue⟩, h⟩
    | some inner =>
      refine (hread (hnext inner rfl)).bind fun item hitem => ?_
      refine (ih false hitem.2).bind fun others hothers => ?_
      obtain ⟨⟨hcount, hfits⟩, hrest⟩ := hothers
      exact ensures_ok
        ⟨⟨Nat.succ_lt_succ hcount, List.forall_mem_cons.2 ⟨hitem.1, hfits⟩⟩, hrest⟩

theorem counted_closeList (h : Counted document) : Ensures (closeList document) Counted := by
  unfold closeList
  split
  · exact ensures_error _
  · next c rest hskip =>
    split
    · exact ensures_ok (h.behind hskip)
    · split
      · split <;> exact ensures_error _
      · exact ensures_error _

/-- Fewer than one more than the characters of a counted document is a number that fits a word. -/
theorem lt_of_lt_length {count : Nat} (h : Counted document) (hcount : count < document.length + 1) :
    count < 2 ^ 64 := by
  have := Text.Utf8.length_le_size document
  simp only [Counted] at h
  omega

theorem Fitting.list {read : Reader α} (h : read.Fitting Fits) :
    (list read).Fitting fun values => values.length < 2 ^ 64 ∧ ∀ value ∈ values, Fits value := by
  intro depth document hdocument
  unfold Reader.list
  split
  · next rest hskip =>
    have hrest := hdocument.behind hskip
    refine (ensures_true (enter depth)).bind fun depth _ => ?_
    refine (fitting_items (h depth) (rest.length + 1) true hrest).bind fun items hitems => ?_
    obtain ⟨⟨hcount, hfits⟩, hending⟩ := hitems
    refine (counted_closeList hending).bind fun after hafter => ?_
    exact ensures_ok ⟨⟨lt_of_lt_length hrest hcount, hfits⟩, hafter⟩
  · exact ensures_error _

/-! ### Objects -/

theorem counted_nextKey (first : Bool) (h : Counted document) :
    Ensures (nextKey first document) fun next => ∀ rest ∈ next, Counted rest := by
  unfold nextKey
  split
  · exact ensures_error _
  · next c rest hskip =>
    split
    · exact ensures_ok fun _ hrest => nomatch hrest
    · split
      · split
        · refine ensures_ok ?_
          rintro _ ⟨⟩
          exact h.behind hskip
        · exact ensures_error _
      · split
        · split
          · exact ensures_error _
          · next d after hafter =>
            split
            · refine ensures_ok ?_
              rintro _ ⟨⟩
              exact (h.behind hskip).behind hafter
            · split <;> exact ensures_error _
        · exact ensures_error _

theorem counted_closeObject (h : Counted document) : Ensures (closeObject document) Counted := by
  unfold closeObject
  split
  · exact ensures_error _
  · next c rest hskip =>
    split
    · exact ensures_ok (h.behind hskip)
    · split <;> exact ensures_error _

variable {σ : Type} {step : String → σ → List Char → Except Error (σ × List Char)}
  (Inv : Nat → σ → Prop)

/-- What each member keeps of what was gathered, told how many there were before, all of them keep.
There are fewer of them than the fuel allows for. -/
theorem fitting_members
    (hstep : ∀ {count key gathered document}, Inv count gathered → Text.Fits key →
      Counted document →
        Ensures (step key gathered document) fun found => Inv (count + 1) found.1 ∧ Counted found.2)
    (fuel : Nat) (first : Bool) (count : Nat) {gathered : σ} (hgathered : Inv count gathered)
    (h : Counted document) :
    Ensures (members step fuel first gathered document) fun found =>
      (∃ more < fuel, Inv (count + more) found.1) ∧ Counted found.2 := by
  -- what was gathered changes with every member, and so does the number of members before it
  induction fuel generalizing first count gathered document with
  | zero => exact ensures_error _
  | succ fuel ih =>
    refine (counted_nextKey first h).bind fun next hnext => ?_
    cases next with
    | none => exact ensures_ok ⟨⟨0, Nat.succ_pos fuel, hgathered⟩, h⟩
    | some inner =>
      refine (counted_readString (hnext inner rfl)).bind fun key hkey => ?_
      refine (hstep hgathered hkey.1 hkey.2).bind fun between hbetween => ?_
      refine (ih false (count + 1) hbetween.1 hbetween.2).mono fun found hfound => ?_
      obtain ⟨⟨more, hmore, hinv⟩, hrest⟩ := hfound
      refine ⟨⟨more + 1, Nat.succ_lt_succ hmore, ?_⟩, hrest⟩
      rwa [Nat.add_right_comm, Nat.add_assoc] at hinv

theorem Fitting.mapping {read : Reader α} (h : read.Fitting Fits) {empty : σ}
    {insert : String → α → σ → σ} (hempty : Inv 0 empty)
    (hinsert : ∀ {count key value gathered}, Text.Fits key → Fits value → Inv count gathered →
      Inv (count + 1) (insert key value gathered)) :
    (mapping read empty insert).Fitting fun gathered => ∃ count < 2 ^ 64, Inv count gathered := by
  intro depth document hdocument
  unfold Reader.mapping
  split
  · next rest hskip =>
    have hrest := hdocument.behind hskip
    refine (ensures_true (enter depth)).bind fun depth _ => ?_
    refine (fitting_members Inv ?_ (rest.length + 1) true 0 hempty hrest).bind
      fun after hafter => ?_
    · intro count key gathered document hgathered hkey hdocument
      refine (counted_readColon hdocument).bind fun behind hbehind => ?_
      refine (h depth hbehind).bind fun value hvalue => ?_
      exact ensures_ok ⟨hinsert hkey hvalue.1 hgathered, hvalue.2⟩
    · obtain ⟨⟨count, hcount, hinv⟩, hending⟩ := hafter
      refine (counted_closeObject hending).bind fun after hafter => ?_
      rw [Nat.zero_add] at hinv
      exact ensures_ok ⟨⟨count, lt_of_lt_length hrest hcount, hinv⟩, hafter⟩
  · exact ensures_error _

end Reader

/-! ### Rows -/

namespace Fields

/-- Fields whose values fit when they are read or stand for those that are left out, with what this
says of rows and of slots. -/
inductive Fitting : {τs : List Type} → Fields τs → (Row τs → Prop) → (Slots τs → Prop) → Prop
  /-- No fields. -/
  | nil : Fitting .nil (fun _ => True) fun _ => True
  /-- One field before others. -/
  | cons {field : Field τ} {fields : Fields τs} {Fits : τ → Prop} {FitsRow : Row τs → Prop}
      {FitsSlots : Slots τs → Prop} (hformat : field.format.read.Fitting Fits)
      (habsent : ∀ value ∈ field.absent, Fits value)
      (hfields : Fitting fields FitsRow FitsSlots) :
      Fitting (.cons field fields) (fun row => Fits row.1 ∧ FitsRow row.2)
        fun slots => (∀ value ∈ slots.1, Fits value) ∧ FitsSlots slots.2

variable {fields : Fields τs} {FitsRow : Row τs → Prop} {FitsSlots : Slots τs → Prop}

/-- One field before others that nothing stands for when it is left out. -/
theorem Fitting.required {field : Field τ} {Fits : τ → Prop} (hformat : field.format.read.Fitting Fits)
    (habsent : field.absent = none) (hfields : fields.Fitting FitsRow FitsSlots) :
    (Fields.cons field fields).Fitting (fun row => Fits row.1 ∧ FitsRow row.2)
      fun slots => (∀ value ∈ slots.1, Fits value) ∧ FitsSlots slots.2 := by
  refine .cons hformat (fun value hvalue => ?_) hfields
  rw [habsent] at hvalue
  exact nomatch hvalue

theorem Fitting.empty (h : fields.Fitting FitsRow FitsSlots) : FitsSlots fields.empty := by
  induction h with
  | nil => trivial
  | cons hformat habsent hfields ih => exact ⟨fun _ hvalue => (nomatch hvalue), ih⟩

theorem Fitting.readMember (h : fields.Fitting FitsRow FitsSlots) (depth : Nat) (key : String)
    {slots : Slots τs} (hslots : FitsSlots slots) (hdocument : Counted document) :
    Ensures (fields.readMember depth key slots document) fun found =>
      FitsSlots found.1 ∧ Counted found.2 := by
  induction h generalizing document with
  | nil =>
    refine (counted_readColon hdocument).bind fun behind hbehind => ?_
    refine (Skip.counted_value hbehind).bind fun rest hrest => ?_
    exact ensures_ok ⟨trivial, hrest⟩
  | @cons τ τs field fields Fits FitsRow FitsSlots hformat habsent hfields ih =>
    obtain ⟨slot, slots⟩ := slots
    simp only [Fields.readMember]
    split
    · -- only the first member with the key of a field is read
      cases slot with
      | some value => exact ensures_error _
      | none =>
        refine (counted_readColon hdocument).bind fun behind hbehind => ?_
        refine (hformat depth hbehind).bind fun found hfound => ?_
        refine ensures_ok ⟨⟨?_, hslots.2⟩, hfound.2⟩
        rintro _ ⟨⟩
        exact hfound.1
    · refine (ih hslots.2 hdocument).bind fun found hfound => ?_
      exact ensures_ok ⟨⟨hslots.1, hfound.1⟩, hfound.2⟩

theorem Fitting.complete (h : fields.Fitting FitsRow FitsSlots) {slots : Slots τs}
    (hslots : FitsSlots slots) : Ensures (fields.complete slots) FitsRow := by
  induction h with
  | nil => exact ensures_ok trivial
  | @cons τ τs field fields Fits FitsRow FitsSlots hformat habsent hfields ih =>
    obtain ⟨slot, slots⟩ := slots
    simp only [Fields.complete]
    split
    · next value => exact (ih hslots.2).bind fun row hrow => ensures_ok ⟨hslots.1 value rfl, hrow⟩
    · next value habsence =>
      exact (ih hslots.2).bind fun row hrow => ensures_ok ⟨habsent value habsence, hrow⟩
    · exact ensures_error _

theorem Fitting.readItems (h : fields.Fitting FitsRow FitsSlots) (expected : String) (depth : Nat)
    (index : Nat) (hdocument : Counted document) :
    Ensures (fields.readItems expected depth index document) fun found =>
      FitsRow found.1 ∧ Counted found.2 := by
  induction h generalizing index document with
  | nil => exact ensures_ok ⟨trivial, hdocument⟩
  | @cons τ τs field fields Fits FitsRow FitsSlots hformat habsent hfields ih =>
    refine (Reader.counted_nextItem (index == 0) hdocument).bind fun next hnext => ?_
    cases next with
    | some inner =>
      refine (hformat depth (hnext inner rfl)).bind fun value hvalue => ?_
      refine (ih (index + 1) hvalue.2).bind fun row hrow => ?_
      exact ensures_ok ⟨⟨hvalue.1, hrow.1⟩, hrow.2⟩
    | none =>
      dsimp only
      split
      · next value habsence =>
        refine (ih (index + 1) hdocument).bind fun row hrow => ?_
        exact ensures_ok ⟨⟨habsent value habsence, hrow.1⟩, hrow.2⟩
      · exact ensures_error _

/-- The values of a row fit, whichever of the two forms it is read from. -/
theorem Fitting.read (h : fields.Fitting FitsRow FitsSlots) (title : String) :
    (fields.read title).Fitting FitsRow := by
  intro depth document hdocument
  unfold Fields.read
  split
  · next rest hskip =>
    refine (ensures_true (enter depth)).bind fun depth _ => ?_
    refine (h.readItems (fields.expectedLength title) depth 0 (hdocument.behind hskip)).bind
      fun row hrow => ?_
    refine (Reader.counted_closeList hrow.2).bind fun after hafter => ?_
    exact ensures_ok ⟨hrow.1, hafter⟩
  · next rest hskip =>
    refine (ensures_true (enter depth)).bind fun depth _ => ?_
    -- the slots fit however many members there were
    refine (Reader.fitting_members (fun _ slots => FitsSlots slots)
      (fun hslots _ hdocument => h.readMember depth _ hslots hdocument) (rest.length + 1) true
      0 (show FitsSlots fields.empty from h.empty) (hdocument.behind hskip)).bind
        fun members hmembers => ?_
    obtain ⟨⟨-, -, hslots⟩, hending⟩ := hmembers
    refine (h.complete hslots).bind fun row hrow => ?_
    refine (Reader.counted_closeObject hending).bind fun after hafter => ?_
    exact ensures_ok ⟨hrow, hafter⟩
  · exact ensures_error _

end Fields

/-! ### Formats -/

namespace Format

theorem fitting_text {expected : String} {meaning : String → Except String α}
    (content : α → String)
    (hmeaning : ∀ found, Text.Fits found → Ensures (meaning found) Fits) :
    (text expected meaning content).read.Fitting Fits :=
  Reader.fitting_text hmeaning

theorem fitting_string : string.read.Fitting Text.Fits :=
  fitting_text id fun _ hfound => ensures_ok hfound

theorem fitting_boolean : boolean.read.Fitting fun _ => True :=
  Reader.fitting_boolean

theorem fitting_list {format : Format α} (h : format.read.Fitting Fits) :
    (list format).read.Fitting fun values =>
      values.length < 2 ^ 64 ∧ ∀ value ∈ values, Fits value :=
  Reader.Fitting.list h

theorem fitting_word32 : word32.read.Fitting fun _ => True := by
  intro depth document hdocument
  refine (Reader.fitting_natural "u32" UInt32.size depth hdocument).bind fun found hfound => ?_
  exact ensures_ok ⟨trivial, hfound.2⟩

theorem fitting_word64 : word64.read.Fitting fun _ => True := by
  intro depth document hdocument
  refine (Reader.fitting_natural "u64" UInt64.size depth hdocument).bind fun found hfound => ?_
  exact ensures_ok ⟨trivial, hfound.2⟩

theorem fitting_transfer {format : Format α} (h : format.read.Fitting Fits) {wrap : α → β}
    {unwrap : β → α} {FitsToo : β → Prop} (hwrap : ∀ value, Fits value → FitsToo (wrap value)) :
    (format.transfer wrap unwrap).read.Fitting FitsToo := by
  intro depth document hdocument
  refine (h depth hdocument).bind fun found hfound => ?_
  exact ensures_ok ⟨hwrap found.1 hfound.1, hfound.2⟩

/-- What is found in a counted document fits. -/
theorem fits_of_parse {format : Format α} (h : format.read.Fitting Fits) {document : String}
    (hdocument : Text.Fits document) : Ensures (format.parse document) Fits := by
  refine (h depthLimit hdocument).bind fun found hfound => ?_
  dsimp only
  split
  · exact ensures_ok hfound.1
  · exact ensures_error _

end Format

end Json

end Lifecycle
