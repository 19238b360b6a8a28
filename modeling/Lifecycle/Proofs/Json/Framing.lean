import Lifecycle.Proofs.Json.Endings
import Lifecycle.Proofs.Json.Objects
import Mathlib.Data.List.TakeWhile

/-!
# Documents that say where they end

A reader reads a longer document alike as long as something is left of the shorter one, and an array
or object is read alike in any case, since it ends with its bracket. `Reader.Framed` says so, and is
kept by every way to make readers of others.

An object that is cut short is therefore refused, and so is one that anything but white space
follows.

- `Format.parse_append`: a document is found at the front of a longer one;
- `Format.Lawful.not_parse_of_cut`: no part of what was written is read.
-/

namespace Lifecycle

namespace Json

open Lifecycle.Except (CarriesOver carriesOver_error carriesOver_ok carriesOver_self followedBy)
open Text (isInsignificant skipInsignificant)

/-- A longer document is read alike if enough is left, however many brackets may be opened. -/
def Reader.Framed (Enough : List Char → Prop) (read : Reader α) : Prop :=
  ∀ depth, ReadsAlike Enough (read depth)

variable {Enough : List Char → Prop}

namespace Reader

/-! ### Scalars -/

theorem framed_text (expected : String) (meaning : String → Except String α) :
    (text expected meaning).Framed Left := by
  intro depth document more
  unfold text
  split
  · next rest hskip =>
    simp only [skip_append hskip more]
    refine ((readString_alike rest more).since (ne_nil_of_skip hskip)).bind fun found => ?_
    dsimp only [followedBy]
    split
    · exact carriesOver_ok id
    · exact carriesOver_error _
  · exact carriesOver_error _

theorem framed_boolean : boolean.Framed Left := by
  intro depth document more
  have hword (due text : List Char) (value : Bool) :
      CarriesOver True (fun found => Left found.2) (followedBy more)
        ((readWord due text).map fun rest => (value, rest))
        ((readWord due (text ++ more)).map fun rest => (value, rest)) :=
    (readWord_alike due text more).map (fun _ h => h) fun _ => rfl
  unfold boolean
  split
  · next hskip =>
    simp only [skip_append hskip more]
    exact (hword _ _ true).since (ne_nil_of_skip hskip)
  · next hskip =>
    simp only [skip_append hskip more]
    exact (hword _ _ false).since (ne_nil_of_skip hskip)
  · exact carriesOver_error _

theorem framed_natural (expected : String) (bound : Nat) :
    (natural expected bound).Framed Left := by
  intro depth document more
  unfold natural
  split
  · exact carriesOver_error _
  · next c rest hskip =>
    simp only [skip_append hskip more]
    split
    · refine ((readNumeral_alike (c :: rest) more).since (ne_nil_of_skip hskip)).bind
        fun found => ?_
      dsimp only [followedBy]
      split
      · split
        · exact carriesOver_ok id
        · exact carriesOver_error _
      · exact carriesOver_error _
    · exact carriesOver_error _

/-! ### Arrays -/

theorem nextItem_alike (first : Bool) (document more : List Char) :
    CarriesOver (document ≠ []) (fun _ => True) (Option.map (· ++ more)) (nextItem first document)
      (nextItem first (document ++ more)) := by
  unfold nextItem
  split
  · exact carriesOver_error _
  · next c rest hskip =>
    have hdue (_ : True) := ne_nil_of_skip hskip
    simp only [skip_append hskip more]
    split
    · exact carriesOver_ok hdue
    · split
      · exact carriesOver_ok hdue
      · -- behind the comma, the next token decides again
        split
        · split
          · exact carriesOver_error _
          · next d after hafter =>
            simp only [skip_append hafter more]
            split
            · exact carriesOver_error _
            · exact carriesOver_ok hdue
        · exact carriesOver_error _

/-- Items are read alike, also with more fuel. Behind them stands the end of the array. -/
theorem items_alike {read : List Char → Except Error (α × List Char)} (hread : ReadsAlike Left read)
    (first : Bool) (document more : List Char) {fuel enough : Nat} (hfuel : fuel ≤ enough) :
    CarriesOver (document ≠ []) (fun found => Left found.2) (followedBy more)
      (items read fuel first document) (items read enough first (document ++ more)) := by
  -- an item may be a number, but behind it something is left, if only the end of the array
  induction fuel generalizing first document enough with
  | zero => exact carriesOver_error _
  | succ fuel ih =>
    obtain ⟨enough, rfl⟩ := Nat.exists_eq_add_one.2 (Nat.zero_lt_of_lt hfuel)
    refine (nextItem_alike first document more).bind fun next => ?_
    cases next with
    | none => exact carriesOver_ok fun _ => trivial
    | some inner =>
      refine ((hread inner more).since trivial).bind fun item => ?_
      refine (ih false item.2 (Nat.le_of_succ_le_succ hfuel)).bind fun others => ?_
      exact carriesOver_ok id

theorem closeList_alike : PassesAlike Enough closeList := by
  intro document more
  unfold closeList
  split
  · exact carriesOver_error _
  · next c rest hskip =>
    simp only [skip_append hskip more]
    split
    · exact carriesOver_ok fun _ => ne_nil_of_skip hskip
    · split
      · split <;> exact carriesOver_error _
      · exact carriesOver_error _

/-- More text is more fuel. -/
theorem fuel_le (rest more : List Char) : rest.length + 1 ≤ (rest ++ more).length + 1 := by
  rw [List.length_append]
  omega

theorem Framed.list {read : Reader α} (h : read.Framed Left) : (list read).Framed Enough := by
  intro depth document more
  unfold Reader.list
  split
  · next rest hskip =>
    simp only [skip_append hskip more]
    have hdue := ne_nil_of_skip hskip
    refine (carriesOver_self (document ≠ []) (enter depth)).bind fun depth => ?_
    refine ((items_alike (h depth) true rest more (fuel_le rest more)).since hdue).bind
      fun items => ?_
    exact (closeList_alike items.2 more).bind fun behind => carriesOver_ok id
  · exact carriesOver_error _

/-! ### Objects -/

theorem nextKey_alike (first : Bool) (document more : List Char) :
    CarriesOver (document ≠ []) (fun _ => True) (Option.map (· ++ more)) (nextKey first document)
      (nextKey first (document ++ more)) := by
  unfold nextKey
  split
  · exact carriesOver_error _
  · next c rest hskip =>
    have hdue (_ : True) := ne_nil_of_skip hskip
    simp only [skip_append hskip more]
    split
    · exact carriesOver_ok hdue
    · split
      · split
        · exact carriesOver_ok hdue
        · exact carriesOver_error _
      · split
        · split
          · exact carriesOver_error _
          · next d after hafter =>
            simp only [skip_append hafter more]
            split
            · exact carriesOver_ok hdue
            · split <;> exact carriesOver_error _
        · exact carriesOver_error _

variable {σ : Type} {step : String → σ → List Char → Except Error (σ × List Char)}

/-- Members are gathered alike, also with more fuel. Behind them stands the end of the object. -/
theorem members_alike (hstep : ∀ key gathered, ReadsAlike Left (step key gathered)) (first : Bool)
    (gathered : σ) (document more : List Char) {fuel enough : Nat} (hfuel : fuel ≤ enough) :
    CarriesOver (document ≠ []) (fun found => Left found.2) (followedBy more)
      (members step fuel first gathered document)
      (members step enough first gathered (document ++ more)) := by
  induction fuel generalizing first gathered document enough with
  | zero => exact carriesOver_error _
  | succ fuel ih =>
    obtain ⟨enough, rfl⟩ := Nat.exists_eq_add_one.2 (Nat.zero_lt_of_lt hfuel)
    refine (nextKey_alike first document more).bind fun next => ?_
    cases next with
    | none => exact carriesOver_ok fun _ => trivial
    | some inner =>
      refine ((readString_alike inner more).since trivial).bind fun key => ?_
      refine (hstep key.1 gathered key.2 more).bind fun between => ?_
      exact ih false between.1 between.2 (Nat.le_of_succ_le_succ hfuel)

theorem closeObject_alike : PassesAlike Enough closeObject := by
  intro document more
  unfold closeObject
  split
  · exact carriesOver_error _
  · next c rest hskip =>
    simp only [skip_append hskip more]
    split
    · exact carriesOver_ok fun _ => ne_nil_of_skip hskip
    · split <;> exact carriesOver_error _

theorem Framed.mapping {read : Reader α} (h : read.Framed Left) (empty : σ)
    (insert : String → α → σ → σ) : (mapping read empty insert).Framed Enough := by
  intro depth document more
  unfold Reader.mapping
  split
  · next rest hskip =>
    simp only [skip_append hskip more]
    have hdue := ne_nil_of_skip hskip
    refine (carriesOver_self (document ≠ []) (enter depth)).bind fun depth => ?_
    refine ((members_alike ?_ true empty rest more (fuel_le rest more)).since hdue).bind
      fun found => ?_
    · intro key gathered document more
      refine (readColon_alike document more).bind fun behind => ?_
      refine (h depth behind more).bind fun value => ?_
      exact carriesOver_ok id
    · exact (closeObject_alike found.2 more).bind fun behind => carriesOver_ok id
  · exact carriesOver_error _

end Reader

/-! ### Rows -/

namespace Fields

/-- Fields whose values are read alike as long as something is left. -/
inductive Framed : {τs : List Type} → Fields τs → Prop where
  /-- No fields. -/
  | nil : Framed .nil
  /-- One field before others. -/
  | cons {field : Field τ} {fields : Fields τs} (hformat : field.format.read.Framed Left)
      (hfields : Framed fields) : Framed (.cons field fields)

variable {fields : Fields τs}

theorem Framed.readMember (h : fields.Framed) (depth : Nat) (key : String) (slots : Slots τs) :
    ReadsAlike Left (fields.readMember depth key slots) := by
  intro document more
  induction h with
  | nil =>
    refine (readColon_alike document more).bind fun behind => ?_
    refine (Skip.value_alike behind more).bind fun rest => ?_
    exact carriesOver_ok id
  | @cons τ τs field fields hformat hfields ih =>
    obtain ⟨slot, slots⟩ := slots
    simp only [Fields.readMember]
    split
    · cases slot with
      | some value => exact carriesOver_error _
      | none =>
        refine (readColon_alike document more).bind fun behind => ?_
        refine (hformat depth behind more).bind fun found => ?_
        exact carriesOver_ok id
    · refine (ih slots).bind fun found => ?_
      exact carriesOver_ok id

theorem Framed.readItems (h : fields.Framed) (expected : String) (depth index : Nat) :
    ReadsAlike Left (fields.readItems expected depth index) := by
  intro document more
  induction h generalizing index document with
  | nil => exact carriesOver_ok id
  | @cons τ τs field fields hformat hfields ih =>
    refine (Reader.nextItem_alike (index == 0) document more).bind fun next => ?_
    cases next with
    | some inner =>
      refine ((hformat depth inner more).since trivial).bind fun value => ?_
      refine (ih (index + 1) value.2).bind fun row => ?_
      exact carriesOver_ok id
    | none =>
      dsimp only [Option.map_none]
      split
      · -- the end of the array is left for the fields that follow
        refine ((ih (index + 1) document).since trivial).bind fun row => ?_
        exact carriesOver_ok id
      · exact carriesOver_error _

/-- A row ends with its bracket, whichever of the two forms it is read from. -/
theorem Framed.read (h : fields.Framed) (title : String) : (fields.read title).Framed Enough := by
  intro depth document more
  unfold Fields.read
  split
  · next rest hskip =>
    simp only [skip_append hskip more]
    have hdue := ne_nil_of_skip hskip
    refine (carriesOver_self (document ≠ []) (enter depth)).bind fun depth => ?_
    refine ((h.readItems (fields.expectedLength title) depth 0 rest more).since hdue).bind
      fun row => ?_
    exact (Reader.closeList_alike row.2 more).bind fun behind => carriesOver_ok id
  · next rest hskip =>
    simp only [skip_append hskip more]
    have hdue := ne_nil_of_skip hskip
    refine (carriesOver_self (document ≠ []) (enter depth)).bind fun depth => ?_
    refine ((Reader.members_alike (fun key slots => h.readMember depth key slots) true fields.empty
      rest more (Reader.fuel_le rest more)).since hdue).bind fun found => ?_
    -- completing the row looks at no text
    refine (carriesOver_self (found.2 ≠ []) (fields.complete found.1)).bind fun row => ?_
    exact (Reader.closeObject_alike found.2 more).bind fun behind => carriesOver_ok id
  · exact carriesOver_error _

end Fields

/-! ### Formats -/

namespace Format

theorem framed_text (expected : String) (meaning : String → Except String α)
    (content : α → String) : (text expected meaning content).read.Framed Left :=
  Reader.framed_text expected meaning

theorem framed_string : string.read.Framed Left :=
  framed_text "a string" .ok id

theorem framed_boolean : boolean.read.Framed Left :=
  Reader.framed_boolean

theorem framed_word32 : word32.read.Framed Left := by
  intro depth document more
  refine (Reader.framed_natural "u32" UInt32.size depth document more).bind fun value => ?_
  exact carriesOver_ok id

theorem framed_word64 : word64.read.Framed Left := by
  intro depth document more
  refine (Reader.framed_natural "u64" UInt64.size depth document more).bind fun value => ?_
  exact carriesOver_ok id

variable {format : Format α}

theorem framed_list (h : format.read.Framed Left) : (list format).read.Framed Enough :=
  Reader.Framed.list h

theorem framed_transfer (h : format.read.Framed Enough) (wrap : α → β) (unwrap : β → α) :
    (format.transfer wrap unwrap).read.Framed Enough := by
  intro depth document more
  refine (h depth document more).bind fun value => ?_
  exact carriesOver_ok id

/-! ### Documents -/

/-- Nothing has to be left. -/
def Anything (_ : List Char) : Prop :=
  True

/-- A text is white space if nothing is left of it without its white space. -/
theorem isEmpty_skip_iff {text : List Char} :
    (skipInsignificant text).isEmpty = true ↔ IsSpace text := by
  rw [List.isEmpty_iff, skipInsignificant, List.dropWhile_eq_nil_iff, IsSpace]

/-- A document is read from the front of a longer one, and only white space may follow it. -/
theorem parse_append (h : format.read.Framed Anything) {document : String} {value : α}
    (hparse : format.parse document = .ok value) (tail : String) :
    format.parse (document ++ tail) =
      if (skipInsignificant tail.toList).isEmpty then .ok value
      else .error .trailingCharacters := by
  obtain ⟨⟨found, rest⟩, hread, hparse⟩ := Except.exists_of_bind_eq_ok hparse
  dsimp only at hparse
  split at hparse
  · next hspace =>
    cases hparse
    -- behind the value stands what was left of the document, and then the tail
    have hbefore := isEmpty_skip_iff.1 hspace
    have hlonger := (h depthLimit document.toList tail.toList _ hread trivial).2
    have hskip : skipInsignificant (rest ++ tail.toList) = skipInsignificant tail.toList := by
      rw [skipInsignificant, List.dropWhile_append_of_pos hbefore, ← skipInsignificant]
    rw [parse, Reader.run, String.toList_append, hlonger, Except.ok_bind]
    dsimp only [followedBy]
    rw [hskip]
    rfl
  · cases hparse

/-- Of a value that is cut short nothing is read. -/
theorem Lawful.not_parse_of_cut {height : Nat} (hlawful : format.Lawful height)
    (h : format.read.Framed Anything) {layout : Layout} (hlayout : layout.Readable)
    (hheight : height ≤ depthLimit) {value : α} {kept lost : String} (hlost : lost ≠ "")
    (hcut : kept ++ lost = String.ofList ((format.write value).write layout 0)) (found : α) :
    format.parse kept ≠ .ok found := by
  intro hparse
  obtain ⟨⟨first, rest⟩, hread, -⟩ := Except.exists_of_bind_eq_ok hparse
  -- in the whole, the reader would stop at the same place, but it takes everything
  have hwhole := (h depthLimit kept.toList lost.toList _ hread trivial).2
  have hwritten := hlawful.read_write hlayout hheight value 0 isSpace_nil endsNumber_nil
  have htext : kept.toList ++ lost.toList = (format.write value).write layout 0 := by
    rw [← String.toList_append, hcut, String.toList_ofList]
  rw [List.nil_append, List.append_nil, ← htext, hwhole] at hwritten
  have hleft : rest ++ lost.toList = [] := congrArg Prod.snd (Except.ok.inj hwritten)
  exact hlost (String.toList_eq_nil_iff.1 (List.append_eq_nil_iff.1 hleft).2)

end Format

end Json

end Lifecycle
