import Lifecycle.Binary.Format
import Lifecycle.Proofs.Except
import Lifecycle.Proofs.Record.Sizes
import Lifecycle.Proofs.Text.Encoding
import Mathlib.Algebra.Group.Nat.Defs

/-!
# Lawful binary formats

A binary format is lawful when a value is read back from the front of any bytes that begin with it,
and what follows is left. `Format.Lawful` is proved for every format and kept by every way to make
formats of others, so that a format is lawful as soon as its parts are.

A length is written in 64 bits, so that not every value of the logic can be told: `Lawful` comes with
the condition that a value has to meet. What is read from bytes always meets it, since its lengths
were read too.
-/

namespace Lifecycle

namespace Binary

/-! ### Naturals and blocks -/

@[simp]
theorem length_writeNatural (width value : Nat) : (writeNatural width value).length = width := by
  induction width generalizing value with
  | zero => rfl
  | succ width ih => rw [writeNatural, List.length_cons, ih]

/-- Of a written natural, what fits its width is read back. -/
theorem readNatural_writeNatural (width value : Nat) (rest : List UInt8) :
    readNatural width (writeNatural width value ++ rest) = .ok (value % 256 ^ width, rest) := by
  induction width generalizing value with
  | zero => simp [readNatural, writeNatural, Nat.mod_one]
  | succ width ih =>
    -- the first byte is the last digit to the base 256
    have hbyte : (UInt8.ofNat value).toNat + 256 * (value / 256 % 256 ^ width) =
        value % 256 ^ (width + 1) := by
      have hpower : 256 ^ (width + 1) = 256 * 256 ^ width := Nat.pow_succ'
      rw [UInt8.toNat_ofNat', hpower, Nat.mod_mul]
    simp only [writeNatural, List.cons_append, readNatural, ih, Except.ok_bind, Except.pure_eq_ok,
      hbyte]

theorem readNatural_of_lt (width : Nat) {value : Nat} (hvalue : value < 256 ^ width)
    (rest : List UInt8) :
    readNatural width (writeNatural width value ++ rest) = .ok (value, rest) := by
  rw [readNatural_writeNatural, Nat.mod_eq_of_lt hvalue]

/-- A natural that was read fits its width. -/
theorem readNatural_lt {width value : Nat} {bytes rest : List UInt8}
    (h : readNatural width bytes = .ok (value, rest)) : value < 256 ^ width := by
  induction width generalizing bytes value rest with
  | zero =>
    rw [readNatural] at h
    cases h
    decide
  | succ width ih =>
    cases bytes with
    | nil => exact nomatch h
    | cons byte bytes =>
      obtain ⟨⟨higher, after⟩, hhigher, hvalue⟩ := Except.exists_of_bind_eq_ok h
      obtain ⟨rfl, -⟩ := Prod.mk.inj (Except.ok.inj hvalue)
      have hlow := byte.toNat_lt
      have hhigh := ih hhigher
      rw [Nat.pow_succ']
      omega

@[simp]
theorem length_writeBlock (bytes : List UInt8) :
    (writeBlock bytes).length = 8 + bytes.length := by
  rw [writeBlock, List.length_append, length_writeNatural]

theorem readBlock_writeBlock {bytes : List UInt8} (hbytes : bytes.length < 2 ^ 64)
    (rest : List UInt8) : readBlock (writeBlock bytes ++ rest) = .ok (bytes, rest) := by
  have hfits : bytes.length ≤ (bytes ++ rest).length := by
    rw [List.length_append]
    omega
  simp only [readBlock, writeBlock, List.append_assoc,
    readNatural_of_lt 8 hbytes, Except.ok_bind, hfits, ↓reduceIte, List.take_left,
    List.drop_left, Except.pure_eq_ok]

/-- The bytes of a block are counted in a word. -/
theorem length_lt_of_readBlock {bytes found rest : List UInt8}
    (h : readBlock bytes = .ok (found, rest)) : found.length < 2 ^ 64 := by
  obtain ⟨⟨length, after⟩, hlength, h⟩ := Except.exists_of_bind_eq_ok h
  have hbound := readNatural_lt hlength
  dsimp only at h
  split at h
  · obtain ⟨rfl, -⟩ := Prod.mk.inj (Except.ok.inj h)
    exact Nat.lt_of_le_of_lt (List.length_take_le length after) hbound
  · exact nomatch h

namespace Format

/-- Every value that fits is read back from the front of bytes that begin with it, no value is
written without a byte, and what is read fits. -/
structure Lawful (format : Format α) (Fits : α → Prop) : Prop where
  /-- A value is read back. -/
  read_write : ∀ value rest, Fits value →
    format.read (format.write value ++ rest) = .ok (value, rest)
  /-- A value takes at least one byte. -/
  length_pos : ∀ value, 0 < (format.write value).length
  /-- A value fits if its bytes can be counted. -/
  fits_of_length : ∀ value, (format.write value).length < 2 ^ 64 → Fits value
  /-- What is read fits. -/
  fits_of_read : ∀ bytes value rest, format.read bytes = .ok (value, rest) → Fits value

variable {α β : Type} {Fits : α → Prop}

/-! ### Simple formats -/

theorem lawful_word32 : word32.Lawful fun _ => True where
  read_write value rest _ := by
    have hread := readNatural_of_lt 4 value.toNat_lt rest
    simp only [word32, hread, Except.ok_bind, Except.pure_eq_ok, UInt32.ofNat_toNat]
  length_pos value := by simp [word32]
  fits_of_length _ _ := trivial
  fits_of_read _ _ _ _ := trivial

theorem lawful_word64 : word64.Lawful fun _ => True where
  read_write value rest _ := by
    have hread := readNatural_of_lt 8 value.toNat_lt rest
    simp only [word64, hread, Except.ok_bind, Except.pure_eq_ok, UInt64.ofNat_toNat]
  length_pos value := by simp [word64]
  fits_of_length _ _ := trivial
  fits_of_read _ _ _ _ := trivial

theorem lawful_boolean : boolean.Lawful fun _ => True where
  read_write value rest _ := by cases value <;> rfl
  length_pos value := by cases value <;> decide
  fits_of_length _ _ := trivial
  fits_of_read _ _ _ _ := trivial

/-- Bytes are read back when their content means the value that it was made of, and is short. -/
theorem lawful_block {meaning : List UInt8 → Except String α} {content : α → List UInt8}
    (hmeaning : ∀ value, meaning (content value) = .ok value)
    (hshort : ∀ value, (content value).length < 2 ^ 64) :
    (block meaning content).Lawful fun _ => True where
  read_write value rest _ := by
    have hread := readBlock_writeBlock (hshort value) rest
    simp only [block, hread, Except.ok_bind, hmeaning, Except.pure_eq_ok]
  length_pos value := by
    rw [block, length_writeBlock]
    omega
  fits_of_length _ _ := trivial
  fits_of_read _ _ _ _ := trivial

/-- Texts are read back when their content means the value that it was made of. -/
theorem read_text {meaning : String → Except String α} {content : α → String} {value : α}
    (hmeaning : meaning (content value) = .ok value) (hfits : Text.Fits (content value))
    (rest : List UInt8) :
    (text meaning content).read ((text meaning content).write value ++ rest) =
      .ok (value, rest) := by
  have hread := readBlock_writeBlock hfits rest
  simp only [text, hread, Except.ok_bind, Text.Utf8.decode_encode, String.ofList_toList, hmeaning,
    Except.pure_eq_ok]

theorem length_text_pos (meaning : String → Except String α) (content : α → String) (value : α) :
    0 < ((text meaning content).write value).length := by
  rw [text, length_writeBlock]
  omega

/-- Short texts are read back when their content means the value that it was made of. -/
theorem lawful_text {meaning : String → Except String α} {content : α → String}
    (hmeaning : ∀ value, meaning (content value) = .ok value)
    (hshort : ∀ value, Text.Fits (content value)) :
    (text meaning content).Lawful fun _ => True where
  read_write value rest _ := read_text (hmeaning value) (hshort value) rest
  length_pos := length_text_pos meaning content
  fits_of_length _ _ := trivial
  fits_of_read _ _ _ _ := trivial

theorem lawful_string : string.Lawful Text.Fits where
  read_write value rest hfits := by
    rw [string, read_text rfl (show Text.Fits (id value) from hfits)]
  length_pos := length_text_pos .ok id
  fits_of_length value hlength := by
    rw [string, text, length_writeBlock, id] at hlength
    rw [Text.Fits, Text.Utf8.size]
    omega
  fits_of_read bytes value rest hread := by
    obtain ⟨⟨found, after⟩, hblock, hread⟩ := Except.exists_of_bind_eq_ok hread
    have hfound := length_lt_of_readBlock hblock
    dsimp only at hread
    split at hread
    · cases hread
    · next characters hdecode =>
      obtain ⟨rfl, -⟩ := Prod.mk.inj (Except.ok.inj hread)
      rw [Text.Fits, String.toList_ofList]
      exact Nat.lt_of_le_of_lt (Text.Utf8.size_le_of_decode hdecode) hfound

/-! ### Formats made of others -/

/-- Pairs are read back when their parts are. -/
theorem Lawful.pair {first : Format α} {second : Format β} {FitsToo : β → Prop}
    (hfirst : first.Lawful Fits) (hsecond : second.Lawful FitsToo) :
    (first.pair second).Lawful fun value => Fits value.1 ∧ FitsToo value.2 where
  read_write value rest hfits := by
    have hleft := hfirst.read_write value.1 (second.write value.2 ++ rest) hfits.1
    have hright := hsecond.read_write value.2 rest hfits.2
    simp only [Format.pair, List.append_assoc, hleft, hright, Except.ok_bind, Except.pure_eq_ok]
  length_pos value := by
    have := hfirst.length_pos value.1
    rw [Format.pair, List.length_append]
    omega
  fits_of_length value hlength := by
    rw [Format.pair, List.length_append] at hlength
    exact ⟨hfirst.fits_of_length value.1 (by omega), hsecond.fits_of_length value.2 (by omega)⟩
  fits_of_read bytes value rest hread := by
    obtain ⟨⟨left, between⟩, hleft, hread⟩ := Except.exists_of_bind_eq_ok hread
    obtain ⟨⟨right, after⟩, hright, hread⟩ := Except.exists_of_bind_eq_ok hread
    obtain ⟨rfl, -⟩ := Prod.mk.inj (Except.ok.inj hread)
    exact ⟨hfirst.fits_of_read _ _ _ hleft, hsecond.fits_of_read _ _ _ hright⟩

/-- A list takes at least one byte for each value. -/
theorem Lawful.length_le {format : Format α} (h : format.Lawful Fits) (values : List α) :
    values.length ≤ (values.flatMap format.write).length := by
  induction values with
  | nil => exact Nat.zero_le _
  | cons value values ih =>
    have := h.length_pos value
    rw [List.flatMap_cons, List.length_append, List.length_cons]
    omega

/-- As many values as there are behind one another are read back. -/
theorem Lawful.readMany_flatMap {format : Format α} (h : format.Lawful Fits) {values : List α}
    {fuel : Nat} (hfuel : values.length ≤ fuel) (hfits : ∀ value ∈ values, Fits value)
    (rest : List UInt8) :
    readMany format.read fuel values.length (values.flatMap format.write ++ rest) =
      .ok (values, rest) := by
  induction values generalizing fuel with
  | nil => cases fuel <;> rfl
  | cons value values ih =>
    obtain ⟨hvalue, hvalues⟩ := List.forall_mem_cons.1 hfits
    -- the fuel is the number of bytes left, of which every value takes at least one
    cases fuel with
    | zero => exact absurd hfuel (by simp)
    | succ fuel =>
      have hfirst := h.read_write value (values.flatMap format.write ++ rest) hvalue
      have hothers := ih (Nat.le_of_succ_le_succ hfuel) hvalues
      simp only [List.flatMap_cons, List.append_assoc, List.length_cons, readMany, hfirst, hothers,
        Except.ok_bind, Except.pure_eq_ok]

/-- As many values are read as there should be, and each of them fits. -/
theorem Lawful.fits_of_readMany {format : Format α} (h : format.Lawful Fits) {fuel count : Nat}
    {bytes rest : List UInt8} {values : List α}
    (hread : readMany format.read fuel count bytes = .ok (values, rest)) :
    values.length = count ∧ ∀ value ∈ values, Fits value := by
  induction count generalizing fuel bytes values rest with
  | zero =>
    rw [readMany] at hread
    cases hread
    exact ⟨rfl, fun value hvalue => nomatch hvalue⟩
  | succ count ih =>
    cases fuel with
    | zero => exact nomatch hread
    | succ fuel =>
      obtain ⟨⟨first, between⟩, hfirst, hread⟩ := Except.exists_of_bind_eq_ok hread
      obtain ⟨⟨others, after⟩, hothers, hread⟩ := Except.exists_of_bind_eq_ok hread
      cases hread
      obtain ⟨hlength, hfits⟩ := ih hothers
      exact ⟨congrArg (· + 1) hlength,
        List.forall_mem_cons.2 ⟨h.fits_of_read _ _ _ hfirst, hfits⟩⟩

/-- Every value of a list fits if the bytes of all of them can be counted. -/
theorem Lawful.fits_of_flatMap {format : Format α} (h : format.Lawful Fits) {values : List α}
    (hlength : (values.flatMap format.write).length < 2 ^ 64) : ∀ value ∈ values, Fits value := by
  intro value hvalue
  obtain ⟨before, after, rfl⟩ := List.append_of_mem hvalue
  refine h.fits_of_length value ?_
  simp only [List.flatMap_append, List.flatMap_cons, List.length_append] at hlength
  omega

theorem Lawful.list {format : Format α} (h : format.Lawful Fits) :
    (Format.list format).Lawful fun values =>
      values.length < 2 ^ 64 ∧ ∀ value ∈ values, Fits value where
  read_write values rest hfits := by
    -- there are no more values than bytes, which is fuel enough
    have hread := readNatural_of_lt 8 hfits.1 (values.flatMap format.write ++ rest)
    have hfuel : values.length ≤ (values.flatMap format.write ++ rest).length := by
      have hcount := h.length_le values
      rw [List.length_append]
      omega
    have hmany := h.readMany_flatMap hfuel hfits.2 rest
    simp only [Format.list, List.append_assoc, hread, Except.ok_bind, hmany]
  length_pos values := by
    simp only [Format.list, List.length_append, length_writeNatural]
    omega
  fits_of_length values hlength := by
    have hcount := h.length_le values
    rw [Format.list, List.length_append, length_writeNatural] at hlength
    exact ⟨by omega, h.fits_of_flatMap (by omega)⟩
  fits_of_read bytes values rest hread := by
    obtain ⟨⟨count, after⟩, hcount, hread⟩ := Except.exists_of_bind_eq_ok hread
    obtain ⟨hlength, hfits⟩ := h.fits_of_readMany hread
    exact ⟨hlength ▸ readNatural_lt hcount, hfits⟩

/-- Values that stand for others are read back when these are. -/
theorem Lawful.transfer {format : Format α} (h : format.Lawful Fits) {wrap : α → β} {unwrap : β → α}
    {FitsToo : β → Prop} (hwrap : ∀ value, wrap (unwrap value) = value)
    (hfits : ∀ value, FitsToo value ↔ Fits (unwrap value))
    (hkept : ∀ value, Fits value → FitsToo (wrap value)) :
    (format.transfer wrap unwrap).Lawful FitsToo where
  read_write value rest hvalue := by
    have hread := h.read_write (unwrap value) rest ((hfits value).1 hvalue)
    simp only [Format.transfer, hread, Except.ok_bind, hwrap, Except.pure_eq_ok]
  length_pos value := h.length_pos (unwrap value)
  fits_of_length value hlength := (hfits value).2 (h.fits_of_length (unwrap value) hlength)
  fits_of_read bytes value rest hread := by
    obtain ⟨⟨inner, after⟩, hinner, hread⟩ := Except.exists_of_bind_eq_ok hread
    obtain ⟨rfl, -⟩ := Prod.mk.inj (Except.ok.inj hread)
    exact hkept inner (h.fits_of_read _ _ _ hinner)

/-- A value that is read back is found in what was written, whatever follows. -/
theorem Lawful.parse_write {format : Format α} (h : format.Lawful Fits) {value : α}
    (hfits : Fits value) (rest : List UInt8) :
    format.parse (format.write value ++ rest) = .ok value := by
  rw [parse, h.read_write value rest hfits]
  rfl

/-- What is found in bytes fits. -/
theorem Lawful.fits_of_parse {format : Format α} (h : format.Lawful Fits) {bytes : List UInt8}
    {value : α} (hparse : format.parse bytes = .ok value) : Fits value := by
  obtain ⟨⟨value, rest⟩, hread, rfl⟩ := Except.exists_of_map_eq_ok hparse
  exact h.fits_of_read bytes value rest hread

end Format

end Binary

end Lifecycle
