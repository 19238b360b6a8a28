import Lifecycle.Proofs.Text.Hexadecimal
import Lifecycle.Uuid

/-!
# Reading a written identifier

An identifier is found again in its text and in its bytes. Of all the forms that a text may have,
the written one is recognised as digits in groups: it starts with a digit and has hyphens.
-/

namespace Lifecycle

open Text (Hex.digit Hex.padded Hex.number?)

namespace Uuid

/-! ### Text -/

theorem filter_hyphenate {digits : List Char} (h : ∀ c ∈ digits, c ≠ '-') :
    (hyphenate digits).filter (· != '-') = digits := by
  have hkept (part : List Char) (hpart : ∀ c ∈ part, c ∈ digits) :
      part.filter (· != '-') = part :=
    List.filter_eq_self.2 fun c hc => bne_iff_ne.2 (h c (hpart c hc))
  -- the five groups are all of the digits
  have hjoin : digits.take 8 ++ ((digits.drop 8).take 4 ++ ((digits.drop 12).take 4 ++
      ((digits.drop 16).take 4 ++ digits.drop 20))) = digits := by
    have hlast : (digits.drop 16).take 4 ++ digits.drop 20 = digits.drop 16 := by
      rw [← List.drop_drop (i := 4) (j := 16), List.take_append_drop]
    have hthird : (digits.drop 12).take 4 ++ digits.drop 16 = digits.drop 12 := by
      rw [← List.drop_drop (i := 4) (j := 12), List.take_append_drop]
    have hsecond : (digits.drop 8).take 4 ++ digits.drop 12 = digits.drop 8 := by
      rw [← List.drop_drop (i := 4) (j := 8), List.take_append_drop]
    rw [hlast, hthird, hsecond, List.take_append_drop]
  simp only [hyphenate, List.filter_append, List.filter_cons, List.append_assoc,
    List.cons_append, bne_self_eq_false, Bool.false_eq_true, ↓reduceIte]
  rw [hkept _ fun c hc => List.mem_of_mem_take hc,
    hkept _ fun c hc => List.mem_of_mem_drop (List.mem_of_mem_take hc),
    hkept _ fun c hc => List.mem_of_mem_drop (List.mem_of_mem_take hc),
    hkept _ fun c hc => List.mem_of_mem_drop (List.mem_of_mem_take hc),
    hkept _ fun c hc => List.mem_of_mem_drop hc, hjoin]

theorem toLower_digit_ne : ∀ value < 16, (Text.Hex.digit value).toLower ≠ 'u' := by
  decide

theorem digit_ne_brace : ∀ value < 16, Text.Hex.digit value ≠ '\x7b' := by
  decide

theorem wrapped?_digit {value : Nat} (hvalue : value < 16) (rest : List Char) :
    wrapped? (Text.Hex.digit value :: rest) = none := by
  have hscheme : ((Text.Hex.digit value :: rest).take 9).map Char.toLower ≠ urnScheme := by
    intro hprefix
    rw [List.take_succ_cons, List.map_cons, urnScheme] at hprefix
    exact toLower_digit_ne value hvalue (List.cons.inj hprefix).1
  have hbrace (inside : List Char) (htext : Text.Hex.digit value :: rest = '\x7b' :: inside) :
      False :=
    digit_ne_brace value hvalue (List.cons.inj htext).1
  rw [wrapped?.eq_2 _ hbrace]
  exact if_neg hscheme

theorem ofDigits?_digits (uuid : Uuid) : ofDigits? uuid.digits = some uuid := by
  have hsmall : uuid.bits.toNat % 16 ^ 32 = uuid.bits.toNat :=
    Nat.mod_eq_of_lt uuid.bits.isLt
  rw [ofDigits?, digits, if_pos (Text.Hex.length_padded 32 _), Text.Hex.number?_padded, hsmall,
    Option.map_some, ofNat, BitVec.ofNat_toNat, BitVec.setWidth_eq]

/-- Reading the text of an identifier gives the identifier. -/
theorem parse_text (uuid : Uuid) : parse uuid.text = .ok uuid := by
  have hdigit (c : Char) (hc : c ∈ uuid.digits) : c ≠ '-' := by
    obtain ⟨value, hvalue, rfl⟩ := Text.Hex.exists_digit_of_mem_padded hc
    exact Text.Hex.digit_ne_hyphen value hvalue
  have hlength : uuid.digits.length = 32 := Text.Hex.length_padded 32 _
  -- of the forms that are tried one after the other, only the hyphenated one applies
  have hwrapped : wrapped? (hyphenate uuid.digits) = none := by
    obtain ⟨c, rest, hdigits⟩ := List.exists_cons_of_length_eq_add_one hlength
    obtain ⟨value, hvalue, rfl⟩ :=
      Text.Hex.exists_digit_of_mem_padded (c := c) (hdigits ▸ List.mem_cons_self)
    rw [hdigits]
    exact wrapped?_digit hvalue _
  have hplain : ofDigits? (hyphenate uuid.digits) = none := by
    refine if_neg ?_
    simp [hyphenate, hlength]
  have hgroups : ofGroups? (hyphenate uuid.digits) = some uuid := by
    simp only [ofGroups?, filter_hyphenate hdigit, ↓reduceIte, ofDigits?_digits]
  rw [parse, text, String.toList_ofList, ofText?, hwrapped]
  simp only [hplain, hgroups, Option.none_or]

/-! ### Bytes -/

/-- The bytes of a number, most significant first, spell what of it fits their number. -/
theorem foldl_bytes (count number : Nat) :
    ((List.range count).map fun index =>
        UInt8.ofNat (number / 256 ^ (count - 1 - index))).foldl
      (fun value byte => 256 * value + byte.toNat) 0 = number % 256 ^ count := by
  induction count generalizing number with
  | zero => simp [Nat.mod_one]
  | succ count ih =>
    -- the last byte is the last digit to the base 256, and the others spell what is left
    have hleading : (List.range count).map (fun index =>
        UInt8.ofNat (number / 256 ^ (count + 1 - 1 - index))) =
          (List.range count).map fun index =>
            UInt8.ofNat (number / 256 / 256 ^ (count - 1 - index)) := by
      refine List.map_congr_left fun index hindex => ?_
      have hexponent : count + 1 - 1 - index = 1 + (count - 1 - index) := by
        have := List.mem_range.1 hindex
        omega
      rw [hexponent, Nat.pow_add, Nat.pow_one, Nat.div_div_eq_div_mul]
    have hlast :
        256 * (number / 256 % 256 ^ count) + number % 256 = number % 256 ^ (count + 1) := by
      rw [Nat.pow_succ, Nat.mul_comm _ 256, Nat.mod_mul]
      omega
    rw [List.range_succ, List.map_append, hleading, List.foldl_append, ih]
    simpa using hlast

/-- Reading the bytes of an identifier gives the identifier. -/
theorem parseBytes_toBytes (uuid : Uuid) : parseBytes uuid.toBytes = .ok uuid := by
  have hlength : uuid.toBytes.length = 16 := by
    simp [toBytes]
  have hsmall : uuid.bits.toNat % 256 ^ 16 = uuid.bits.toNat :=
    Nat.mod_eq_of_lt uuid.bits.isLt
  have hspelled : uuid.toBytes.foldl (fun value byte => 256 * value + byte.toNat) 0 =
      uuid.bits.toNat % 256 ^ 16 :=
    foldl_bytes 16 uuid.bits.toNat
  rw [parseBytes, if_pos hlength, ofBytes, hspelled, hsmall, ofNat, BitVec.ofNat_toNat,
    BitVec.setWidth_eq]

end Uuid

end Lifecycle
