import Lifecycle.Json.Value
import Lifecycle.Proofs.Except
import Lifecycle.Proofs.Text.Decimal
import Lifecycle.Proofs.Text.Hexadecimal

/-!
# Tokens of documents

What is written for a string or a natural is read back, whatever follows. A string ends at its
closing quote. A number has no mark of its own at its end, so that only something that cannot go on
with it may follow: `EndsNumber`.
-/

namespace Lifecycle

namespace Json

open Text (IsDecimal EndsDigits Hex.padded Hex.digit)

/-! ### Strings -/

/-- Reading four digits of a code gives the character with this code. -/
theorem readCharacters_code {value : Nat} (hsmall : value < 0xd800) (rest : List Char) :
    readCharacters (.code none 0 0) (Text.Hex.padded 4 value ++ rest) =
      prepend (Char.ofNat value) (readCharacters .plain rest) := by
  have hdigit (number : Nat) := Text.Hex.value?_digit (number % 16) (Nat.mod_lt _ (by decide))
  have hvalue : 16 * (16 * (16 * (16 * 0 + value / 16 / 16 / 16 % 16) + value / 16 / 16 % 16) +
      value / 16 % 16) + value % 16 = value := by
    omega
  -- the code of a control character is no half of a pair of surrogates
  have hlow : isLowSurrogate value = false := by
    simp only [isLowSurrogate, Bool.and_eq_false_iff, decide_eq_false_iff_not]
    omega
  have hhigh : isHighSurrogate value = false := by
    simp only [isHighSurrogate, Bool.and_eq_false_iff, decide_eq_false_iff_not]
    omega
  simp only [Text.Hex.padded, List.nil_append, List.cons_append, readCharacters, hdigit, hvalue,
    hlow, hhigh, Nat.reduceLT, Nat.reduceAdd, ↓reduceIte, Bool.false_eq_true]

/-- A character below the space is read back, from its letter or from its code. -/
theorem readCharacters_escapeControl {c : Char} (hcontrol : c.toNat < 0x20) (rest : List Char) :
    readCharacters .plain (escapeControl c ++ rest) =
      prepend c (readCharacters .plain rest) := by
  have hcode := readCharacters_code (show c.toNat < 0xd800 by omega) rest
  rw [Char.ofNat_toNat] at hcode
  unfold escapeControl
  -- five characters have a letter of their own
  split
  · next h => subst h; rfl
  split
  · next h => subst h; rfl
  split
  · next h => subst h; rfl
  split
  · next h => subst h; rfl
  split
  · next h => subst h; rfl
  · simpa [readCharacters] using hcode

theorem readCharacters_escapeChar (c : Char) (rest : List Char) :
    readCharacters .plain (escapeChar c ++ rest) = prepend c (readCharacters .plain rest) := by
  unfold escapeChar
  by_cases hquote : c = '"'
  · subst hquote
    rfl
  by_cases hbackslash : c = '\\'
  · subst hbackslash
    rfl
  rw [if_neg hquote, if_neg hbackslash]
  -- the quote and the backslash are escaped by themselves, and only control characters remain
  by_cases hcontrol : c.toNat < 0x20
  · rw [if_pos hcontrol, readCharacters_escapeControl hcontrol]
  · rw [if_neg hcontrol]
    simp only [List.singleton_append, readCharacters, hquote, hbackslash, hcontrol, ↓reduceIte]

/-- The characters of a string are read back up to the closing quote. -/
theorem readCharacters_flatMap (text rest : List Char) :
    readCharacters .plain (text.flatMap escapeChar ++ '"' :: rest) = .ok (text, rest) := by
  induction text with
  | nil => rfl
  | cons c text ih =>
    rw [List.flatMap_cons, List.append_assoc, readCharacters_escapeChar, ih]
    rfl

theorem writeString_append (text : String) (rest : List Char) :
    writeString text ++ rest = '"' :: (text.toList.flatMap escapeChar ++ '"' :: rest) := by
  simp [writeString]

theorem readString_flatMap (text : String) (rest : List Char) :
    readString (text.toList.flatMap escapeChar ++ '"' :: rest) = .ok (text, rest) := by
  simp only [readString, readCharacters_flatMap, Except.map_ok, String.ofList_toList]

/-! ### Numbers -/

/-- Nothing that could go on with a number stands at the beginning of a text. -/
def EndsNumber (text : List Char) : Prop :=
  ∀ c ∈ text.head?, c.isDigit = false ∧ c ≠ '.' ∧ c ≠ 'e' ∧ c ≠ 'E'

theorem endsNumber_nil : EndsNumber [] := by
  simp [EndsNumber]

theorem endsNumber_cons {c : Char} {text : List Char}
    (h : c.isDigit = false ∧ c ≠ '.' ∧ c ≠ 'e' ∧ c ≠ 'E') : EndsNumber (c :: text) := by
  simpa [EndsNumber] using h

/-- What does not go on with a number has no digit in front. -/
theorem EndsNumber.endsDigits {text : List Char} (h : EndsNumber text) : EndsDigits text :=
  fun c hc => (h c hc).1

namespace Literal

theorem readWhole_toDigits (number : Nat) {rest : List Char} (hrest : EndsDigits rest) :
    readWhole (Nat.toDigits 10 number ++ rest) = .ok (Nat.toDigits 10 number, rest) := by
  by_cases hzero : number = 0
  · -- a single zero
    subst hzero
    have hhead : rest.head?.any Char.isDigit = false := by
      cases rest with
      | nil => rfl
      | cons c rest => exact hrest c rfl
    change (if rest.head?.any Char.isDigit = true then _ else _) = _
    rw [hhead]
    rfl
  · -- digits of which the first is no zero
    have hdigits := Text.isDecimal_toDigits number
    have hhead := Text.head?_toDigits_ne_zero hzero
    have htaken := Text.takeWhile_isDigit_append hdigits hrest
    have hdropped := Text.dropWhile_isDigit_append hdigits hrest
    obtain ⟨c, tail, htext, hc⟩ := Text.toDigits_eq_cons number
    have hnonzero (after : List Char) (h : c :: tail ++ rest = '0' :: after) : False := by
      rw [htext, List.head?_cons, (List.cons.inj h).1] at hhead
      exact hhead rfl
    rw [htext] at htaken hdropped ⊢
    rw [readWhole.eq_2 _ hnonzero]
    simp only [List.cons_append] at htaken hdropped ⊢
    simp only [someDigits, hc, ↓reduceIte, digits, htaken, hdropped]

/-- Where a number ends, no fraction follows. -/
theorem readFraction_of_endsNumber {rest : List Char} (hrest : EndsNumber rest) :
    readFraction rest = .ok (none, rest) := by
  unfold readFraction
  split
  · exact absurd rfl (hrest '.' rfl).2.1
  · rfl

/-- Where a number ends, no exponent follows. -/
theorem readExponent_of_endsNumber {rest : List Char} (hrest : EndsNumber rest) :
    readExponent rest = .ok (none, rest) := by
  cases rest with
  | nil => rfl
  | cons c rest =>
    obtain ⟨-, -, hlower, hupper⟩ := hrest c rfl
    have hletter : ¬ (c = 'e' ∨ c = 'E') := by
      rintro (h | h)
      · exact hlower h
      · exact hupper h
    exact if_neg hletter

theorem read_toDigits (number : Nat) {rest : List Char} (hrest : EndsNumber rest) :
    read false (Nat.toDigits 10 number ++ rest) =
      .ok (⟨false, Nat.toDigits 10 number, none, none⟩, rest) := by
  simp only [read, readWhole_toDigits number hrest.endsDigits, Except.ok_bind,
    readFraction_of_endsNumber hrest, readExponent_of_endsNumber hrest, Except.pure_eq_ok]

end Literal

theorem readNumeral_toDigits {number : Nat} (hnumber : number < UInt64.size) {rest : List Char}
    (hrest : EndsNumber rest) :
    readNumeral (Nat.toDigits 10 number ++ rest) = .ok (.integer number, rest) := by
  -- the reader looks for a sign first
  have hunsigned (after : List Char) (h : Nat.toDigits 10 number ++ rest = '-' :: after) :
      False := by
    obtain ⟨c, tail, htext, hc⟩ := Text.toDigits_eq_cons number
    rw [htext, List.cons_append] at h
    rw [(List.cons.inj h).1] at hc
    exact absurd hc (by decide)
  have hvalue : Literal.value ⟨false, Nat.toDigits 10 number, none, none⟩ =
      .ok (.integer number) := by
    simp only [Literal.value, Text.natural_toDigits, Option.isNone_none, and_self, ↓reduceIte,
      Bool.false_eq_true, hnumber]
  unfold readNumeral
  split
  · next after h => exact (hunsigned after h).elim
  · simp only [Literal.read_toDigits number hrest, Except.ok_bind, hvalue, Except.pure_eq_ok]

theorem writeNumeral_natural (number : Nat) :
    writeNumeral (.integer number) = Nat.toDigits 10 number := by
  rw [writeNumeral, ← Nat.toList_repr]
  rfl

end Json

end Lifecycle
