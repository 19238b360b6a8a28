import Lifecycle.Proofs.Except
import Lifecycle.Text.Utf8
import Mathlib.Tactic.SplitIfs

/-!
# Encoded text

Decoding the bytes of a text gives the text. The four lengths of encoded characters are treated one
by one: the first byte tells the length, and the bytes behind it put the code together again.
-/

namespace Lifecycle

namespace Text

namespace Utf8

theorem toNat_ofNat_of_lt {value : Nat} (h : value < 256) : (UInt8.ofNat value).toNat = value := by
  rw [UInt8.toNat_ofNat']
  exact Nat.mod_eq_of_lt h

/-- The code of a character is no surrogate and lies below the end of the code space. -/
theorem toNat_valid (c : Char) : c.toNat < 0xd800 ∨ (0xdfff < c.toNat ∧ c.toNat < 0x110000) :=
  c.valid

theorem within_iff {low high : Nat} {byte : UInt8} :
    within low high byte = true ↔ low ≤ byte.toNat ∧ byte.toNat ≤ high := by
  simp [within]

section Sequences

variable {first second third fourth : UInt8} (index : Nat) (rest : List UInt8)

theorem decodeFrom_one (hfirst : first.toNat < 0x80) :
    decodeFrom index (first :: rest) =
      (decodeFrom (index + 1) rest).map (Char.ofNat first.toNat :: ·) := by
  rw [decodeFrom.eq_def]
  simp only [hfirst, ↓reduceIte]

theorem decodeFrom_two (hfirst : within 0xc2 0xdf first = true)
    (hsecond : isContinuation second = true) :
    decodeFrom index (first :: second :: rest) = (decodeFrom (index + 2) rest).map
      (Char.ofNat ((first.toNat - 0xc0) * 0x40 + payload second) :: ·) := by
  have hnotOne : ¬ first.toNat < 0x80 := by
    rw [within_iff] at hfirst
    omega
  rw [decodeFrom.eq_def]
  simp only [hnotOne, hfirst, hsecond, ↓reduceIte]

theorem decodeFrom_three (hfirst : within 0xe0 0xef first = true)
    (hsecond : followsThree first second = true) (hthird : isContinuation third = true) :
    decodeFrom index (first :: second :: third :: rest) =
      (decodeFrom (index + 3) rest).map
        (Char.ofNat ((first.toNat - 0xe0) * 0x1000 + payload second * 0x40 + payload third) ::
          ·) := by
  have hbounds := within_iff.1 hfirst
  have hnotOne : ¬ first.toNat < 0x80 := by omega
  have hnotTwo : within 0xc2 0xdf first = false := by
    rw [Bool.eq_false_iff, Ne, within_iff]
    omega
  rw [decodeFrom.eq_def]
  simp only [hnotOne, hnotTwo, hfirst, hsecond, hthird, ↓reduceIte, Bool.false_eq_true]

theorem decodeFrom_four (hfirst : within 0xf0 0xf4 first = true)
    (hsecond : followsFour first second = true) (hthird : isContinuation third = true)
    (hfourth : isContinuation fourth = true) :
    decodeFrom index (first :: second :: third :: fourth :: rest) =
      (decodeFrom (index + 4) rest).map
        (Char.ofNat ((first.toNat - 0xf0) * 0x40000 + payload second * 0x1000 +
          payload third * 0x40 + payload fourth) :: ·) := by
  have hbounds := within_iff.1 hfirst
  have hnotOne : ¬ first.toNat < 0x80 := by omega
  have hnotTwo : within 0xc2 0xdf first = false := by
    rw [Bool.eq_false_iff, Ne, within_iff]
    omega
  have hnotThree : within 0xe0 0xef first = false := by
    rw [Bool.eq_false_iff, Ne, within_iff]
    omega
  rw [decodeFrom.eq_def]
  simp only [hnotOne, hnotTwo, hnotThree, hfirst, hsecond, hthird, hfourth, ↓reduceIte,
    Bool.false_eq_true]

end Sequences

/-- A byte that continues a character carries six bits. -/
theorem isContinuation_ofNat {bits : Nat} (h : bits < 0x40) :
    isContinuation (UInt8.ofNat (0x80 + bits)) = true ∧
      payload (UInt8.ofNat (0x80 + bits)) = bits := by
  have hbyte := toNat_ofNat_of_lt (show 0x80 + bits < 256 by omega)
  constructor
  · rw [isContinuation, within_iff, hbyte]
    omega
  · unfold payload
    rw [hbyte]
    exact Nat.add_sub_cancel_left 0x80 bits

/-- The second of three bytes is one that may follow the first: the code takes no fewer bytes, and
it is no surrogate. -/
theorem followsThree_ofNat {code : Nat} (hlow : 0x800 ≤ code) (hhigh : code < 0x10000)
    (hvalid : code < 0xd800 ∨ 0xdfff < code) :
    followsThree (UInt8.ofNat (0xe0 + code / 0x1000)) (UInt8.ofNat (0x80 + code / 0x40 % 0x40)) =
      true := by
  have hfirst := toNat_ofNat_of_lt (show 0xe0 + code / 0x1000 < 256 by omega)
  have hsecond := toNat_ofNat_of_lt (show 0x80 + code / 0x40 % 0x40 < 256 by omega)
  have hcontinues :=
    (isContinuation_ofNat (Nat.mod_lt (code / 0x40) (show 0 < 0x40 by decide))).1
  rw [followsThree, hfirst]
  -- the first byte leaves room for a shorter form, or for surrogates, or for neither
  split
  · rw [within_iff, hsecond]
    omega
  · split
    · rw [within_iff, hsecond]
      omega
    · exact hcontinues

/-- The second of four bytes is one that may follow the first: the code takes no fewer bytes, and it
lies in the code space. -/
theorem followsFour_ofNat {code : Nat} (hlow : 0x10000 ≤ code) (hhigh : code < 0x110000) :
    followsFour (UInt8.ofNat (0xf0 + code / 0x40000))
      (UInt8.ofNat (0x80 + code / 0x1000 % 0x40)) = true := by
  have hfirst := toNat_ofNat_of_lt (show 0xf0 + code / 0x40000 < 256 by omega)
  have hsecond := toNat_ofNat_of_lt (show 0x80 + code / 0x1000 % 0x40 < 256 by omega)
  have hcontinues :=
    (isContinuation_ofNat (Nat.mod_lt (code / 0x1000) (show 0 < 0x40 by decide))).1
  rw [followsFour, hfirst]
  -- the first byte leaves room for a shorter form, or for codes that are too great, or for neither
  split
  · rw [within_iff, hsecond]
    omega
  · split
    · rw [within_iff, hsecond]
      omega
    · exact hcontinues

/-- Decoding the bytes of a character gives the character and goes on behind it. -/
theorem decodeFrom_encodeChar (c : Char) (index : Nat) (rest : List UInt8) :
    ∃ next, decodeFrom index (encodeChar c ++ rest) = (decodeFrom next rest).map (c :: ·) := by
  have hvalid := toNat_valid c
  have hlast := isContinuation_ofNat (Nat.mod_lt c.toNat (show 0 < 0x40 by decide))
  have hmiddle := isContinuation_ofNat (Nat.mod_lt (c.toNat / 0x40) (show 0 < 0x40 by decide))
  -- one byte
  by_cases hone : c.toNat < 0x80
  · have hfirst := toNat_ofNat_of_lt (show c.toNat < 256 by omega)
    simp only [encodeChar, hone, ↓reduceIte, List.cons_append, List.nil_append]
    refine ⟨index + 1, ?_⟩
    rw [decodeFrom_one _ _ (by omega), hfirst, Char.ofNat_toNat]
  -- two bytes
  by_cases htwo : c.toNat < 0x800
  · have hfirst := toNat_ofNat_of_lt (show 0xc0 + c.toNat / 0x40 < 256 by omega)
    have hcode : (0xc0 + c.toNat / 0x40 - 0xc0) * 0x40 + c.toNat % 0x40 = c.toNat := by omega
    simp only [encodeChar, hone, htwo, ↓reduceIte, List.cons_append, List.nil_append]
    refine ⟨index + 2, ?_⟩
    rw [decodeFrom_two _ _ (by rw [within_iff, hfirst]; omega) hlast.1, hlast.2, hfirst, hcode,
      Char.ofNat_toNat]
  -- three bytes
  by_cases hthree : c.toNat < 0x10000
  · have hfirst := toNat_ofNat_of_lt (show 0xe0 + c.toNat / 0x1000 < 256 by omega)
    have hfollows := followsThree_ofNat (Nat.le_of_not_lt htwo) hthree (by omega)
    have hcode : (0xe0 + c.toNat / 0x1000 - 0xe0) * 0x1000 + c.toNat / 0x40 % 0x40 * 0x40 +
        c.toNat % 0x40 = c.toNat := by omega
    simp only [encodeChar, hone, htwo, hthree, ↓reduceIte, List.cons_append, List.nil_append]
    refine ⟨index + 3, ?_⟩
    rw [decodeFrom_three _ _ (by rw [within_iff, hfirst]; omega) hfollows hlast.1, hmiddle.2,
      hlast.2, hfirst, hcode, Char.ofNat_toNat]
  -- four bytes
  · have hfirst := toNat_ofNat_of_lt (show 0xf0 + c.toNat / 0x40000 < 256 by omega)
    have hfollows := followsFour_ofNat (Nat.le_of_not_lt hthree) (by omega)
    have hsecond :=
      isContinuation_ofNat (Nat.mod_lt (c.toNat / 0x1000) (show 0 < 0x40 by decide))
    have hcode : (0xf0 + c.toNat / 0x40000 - 0xf0) * 0x40000 + c.toNat / 0x1000 % 0x40 * 0x1000 +
        c.toNat / 0x40 % 0x40 * 0x40 + c.toNat % 0x40 = c.toNat := by omega
    simp only [encodeChar, hone, htwo, hthree, ↓reduceIte, List.cons_append, List.nil_append]
    refine ⟨index + 4, ?_⟩
    rw [decodeFrom_four _ _ (by rw [within_iff, hfirst]; omega) hfollows hmiddle.1 hlast.1,
      hsecond.2, hmiddle.2, hlast.2, hfirst, hcode, Char.ofNat_toNat]

/-- Decoding the bytes of a text gives the text, whatever the index of the first one. -/
theorem decodeFrom_encode (text : List Char) (index : Nat) :
    decodeFrom index (encode text) = .ok text := by
  induction text generalizing index with
  | nil => rfl
  | cons c text ih =>
    obtain ⟨next, hnext⟩ := decodeFrom_encodeChar c index (encode text)
    rw [encode, List.flatMap_cons]
    rw [encode] at hnext ih
    rw [hnext, ih]
    rfl

/-- Decoding the bytes of a text gives the text. -/
theorem decode_encode (text : List Char) : decode (encode text) = .ok text :=
  decodeFrom_encode text 0

/-! ### Sizes -/

@[simp]
theorem size_nil : size [] = 0 := rfl

@[simp]
theorem size_append (front back : List Char) : size (front ++ back) = size front + size back := by
  simp [size, encode]

theorem size_cons (c : Char) (text : List Char) :
    size (c :: text) = (encodeChar c).length + size text := by
  simp [size, encode]

theorem length_encodeChar (c : Char) : (encodeChar c).length =
    if c.toNat < 0x80 then 1 else if c.toNat < 0x800 then 2
    else if c.toNat < 0x10000 then 3 else 4 := by
  simp only [encodeChar]
  split_ifs <;> rfl

theorem length_encodeChar_pos (c : Char) : 0 < (encodeChar c).length := by
  rw [length_encodeChar]
  split_ifs <;> decide

theorem length_encodeChar_le (c : Char) : (encodeChar c).length ≤ 4 := by
  rw [length_encodeChar]
  split_ifs <;> decide

theorem length_le_size (text : List Char) : text.length ≤ size text := by
  induction text with
  | nil => exact Nat.le_refl _
  | cons c text ih =>
    have := length_encodeChar_pos c
    rw [size_cons, List.length_cons]
    omega

theorem size_le (text : List Char) : size text ≤ 4 * text.length := by
  induction text with
  | nil => exact Nat.le_refl _
  | cons c text ih =>
    have := length_encodeChar_le c
    rw [size_cons, List.length_cons]
    omega

theorem size_le_of_suffix {rest text : List Char} (h : rest <:+ text) : size rest ≤ size text := by
  obtain ⟨front, rfl⟩ := h
  rw [size_append]
  exact Nat.le_add_left _ _

/-- A code that belongs to no character stands for the first one of all. -/
theorem toNat_ofNat_le (code : Nat) : (Char.ofNat code).toNat ≤ code := by
  by_cases hvalid : code.isValidChar
  · rw [Char.ofNat, dif_pos hvalid]
    exact Nat.le_refl code
  · rw [Char.ofNat, dif_neg hvalid]
    exact Nat.zero_le code

theorem length_ofNat_le_one {code : Nat} (h : code < 0x80) :
    (encodeChar (Char.ofNat code)).length ≤ 1 := by
  have hcode := toNat_ofNat_le code
  rw [length_encodeChar]
  split_ifs <;> omega

theorem length_ofNat_le_two {code : Nat} (h : code < 0x800) :
    (encodeChar (Char.ofNat code)).length ≤ 2 := by
  have hcode := toNat_ofNat_le code
  rw [length_encodeChar]
  split_ifs <;> omega

theorem length_ofNat_le_three {code : Nat} (h : code < 0x10000) :
    (encodeChar (Char.ofNat code)).length ≤ 3 := by
  have hcode := toNat_ofNat_le code
  rw [length_encodeChar]
  split_ifs <;> omega

theorem payload_lt {byte : UInt8} (h : isContinuation byte = true) : payload byte < 0x40 := by
  have hbounds := within_iff.1 h
  unfold payload
  omega

theorem payload_lt_of_followsThree {first second : UInt8} (h : followsThree first second = true) :
    payload second < 0x40 := by
  simp only [followsThree] at h
  split_ifs at h with hshort hsurrogate
  · have hbounds := within_iff.1 h
    unfold payload
    omega
  · have hbounds := within_iff.1 h
    unfold payload
    omega
  · exact payload_lt h

/-- A character that is decoded from some bytes, before others, takes no more than these bytes. -/
theorem size_le_of_map {code width available total : Nat} {decoded : Except Error (List Char)}
    {text : List Char} (h : decoded.map (Char.ofNat code :: ·) = .ok text)
    (hwidth : (encodeChar (Char.ofNat code)).length ≤ width)
    (hdecoded : ∀ {text}, decoded = .ok text → size text ≤ available)
    (htotal : available + width = total) : size text ≤ total := by
  obtain ⟨others, hothers, rfl⟩ := Except.exists_of_map_eq_ok h
  have := hdecoded hothers
  rw [size_cons]
  omega

/-- What is decoded takes no more bytes than there were. -/
theorem size_le_of_decodeFrom {index : Nat} {bytes : List UInt8} {text : List Char}
    (h : decodeFrom index bytes = .ok text) : size text ≤ bytes.length := by
  -- every other case is a fault, which is no text
  fun_induction decodeFrom index bytes generalizing text <;> try contradiction
  case case1 =>
    cases h
    exact Nat.zero_le _
  case case2 first rest hfirst ih => exact size_le_of_map h (length_ofNat_le_one hfirst) ih rfl
  case case4 first hone hfirst second rest hsecond ih =>
    have hcode : (first.toNat - 0xc0) * 0x40 + payload second < 0x800 := by
      have := payload_lt hsecond
      have := within_iff.1 hfirst
      omega
    exact size_le_of_map h (length_ofNat_le_two hcode) ih rfl
  case case8 first hone htwo hfirst second hsecond third rest hthird ih =>
    have hcode : (first.toNat - 0xe0) * 0x1000 + payload second * 0x40 + payload third <
        0x10000 := by
      have := payload_lt_of_followsThree hsecond
      have := payload_lt hthird
      have := within_iff.1 hfirst
      omega
    exact size_le_of_map h (length_ofNat_le_three hcode) ih rfl
  case case14 ih => exact size_le_of_map h (length_encodeChar_le _) ih rfl

theorem size_le_of_decode {bytes : List UInt8} {text : List Char} (h : decode bytes = .ok text) :
    size text ≤ bytes.length :=
  size_le_of_decodeFrom h

end Utf8

end Text

end Lifecycle
