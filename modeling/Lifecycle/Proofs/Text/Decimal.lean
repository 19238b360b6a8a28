import Lifecycle.Json.Numeral
import Lifecycle.Time.Rfc3339
import Mathlib.Algebra.Group.Nat.Defs

/-!
# Decimal digits

Writing a natural in decimal and reading it again. Numbers of documents and fields of moments are
both read by taking the leading digits of a text and adding them up, so that both rest on the same
facts: `takeWhile_isDigit_append` finds the digits again, and `natural_padded` their value.
-/

namespace Lifecycle

namespace Text

section Prefix

variable {p : Char → Bool} {front rest : List Char}

/-- The leading characters of a kind are found again, if a character of another kind follows. -/
theorem takeWhile_append_of_ends (hfront : ∀ c ∈ front, p c = true)
    (hrest : ∀ c ∈ rest.head?, p c = false) : (front ++ rest).takeWhile p = front := by
  rw [List.takeWhile_append_of_pos hfront]
  rcases rest with _ | ⟨c, rest⟩
  · simp
  · simp [hrest c rfl]

/-- What follows the leading characters of a kind is found again, if it begins with another kind. -/
theorem dropWhile_append_of_ends (hfront : ∀ c ∈ front, p c = true)
    (hrest : ∀ c ∈ rest.head?, p c = false) : (front ++ rest).dropWhile p = rest := by
  rw [List.dropWhile_append_of_pos hfront]
  rcases rest with _ | ⟨c, rest⟩
  · rfl
  · simp [hrest c rfl]

end Prefix

/-- A text of decimal digits only. -/
def IsDecimal (text : List Char) : Prop :=
  ∀ c ∈ text, c.isDigit = true

/-- A text that does not begin with a decimal digit. -/
def EndsDigits (text : List Char) : Prop :=
  ∀ c ∈ text.head?, c.isDigit = false

variable {digits rest : List Char}

theorem takeWhile_isDigit_append (hdigits : IsDecimal digits) (hrest : EndsDigits rest) :
    (digits ++ rest).takeWhile Char.isDigit = digits :=
  takeWhile_append_of_ends hdigits hrest

theorem dropWhile_isDigit_append (hdigits : IsDecimal digits) (hrest : EndsDigits rest) :
    (digits ++ rest).dropWhile Char.isDigit = rest :=
  dropWhile_append_of_ends hdigits hrest

theorem isDecimal_toDigits (number : Nat) : IsDecimal (Nat.toDigits 10 number) :=
  fun _ => Nat.isDigit_of_mem_toDigits (by decide) (by decide)

theorem digitChar_ne_zero : ∀ digit < 10, digit ≠ 0 → Nat.digitChar digit ≠ '0' := by
  decide

/-- A natural has at least one digit. -/
theorem toDigits_eq_cons (number : Nat) :
    ∃ c text, Nat.toDigits 10 number = c :: text ∧ c.isDigit = true := by
  have hne : Nat.toDigits 10 number ≠ [] := Nat.toDigits_ne_nil
  obtain ⟨c, text, htext⟩ := List.exists_cons_of_ne_nil hne
  refine ⟨c, text, htext, isDecimal_toDigits number c ?_⟩
  rw [htext]
  exact List.mem_cons_self

/-- The digits of a natural other than zero do not begin with a zero. -/
theorem head?_toDigits_ne_zero {number : Nat} (hnumber : number ≠ 0) :
    (Nat.toDigits 10 number).head? ≠ some '0' := by
  induction number using Nat.strongRecOn with
  | ind number ih =>
    -- the first digit is the last one to be split off
    by_cases hsmall : number < 10
    · rw [Nat.toDigits_of_lt_base hsmall]
      simpa using digitChar_ne_zero number hsmall hnumber
    · have htail := ih (number / 10) (by omega) (by omega)
      rw [Nat.toDigits_of_base_le (by decide) (Nat.le_of_not_lt hsmall)]
      cases hleading : Nat.toDigits 10 (number / 10) with
      | nil => exact absurd hleading Nat.toDigits_ne_nil
      | cons c leading => rwa [hleading] at htail

theorem isDecimal_padded (width number : Nat) : IsDecimal (Time.padded width number) := by
  intro c hc
  rcases List.mem_append.1 hc with hzero | hdigit
  · rw [(List.mem_replicate.1 hzero).2]
    rfl
  · rw [Nat.toString_eq_repr, Nat.toList_repr] at hdigit
    exact isDecimal_toDigits number c hdigit

/-- A number that fits the width is padded to it. -/
theorem length_padded {width number : Nat} (hwidth : 0 < width) (hnumber : number < 10 ^ width) :
    (Time.padded width number).length = width := by
  have hlength := (Nat.length_toDigits_le_iff (n := number) (by decide : 1 < 10) hwidth).2 hnumber
  simp only [Time.padded, List.length_append, List.length_replicate, Nat.toString_eq_repr,
    Nat.toList_repr]
  omega

/-- A number that fits some digits is padded to no more than these. -/
theorem length_padded_le {width limit number : Nat} (hlimit : 0 < limit)
    (hnumber : number < 10 ^ limit) (hwidth : width ≤ limit) :
    (Time.padded width number).length ≤ limit := by
  have hlength := (Nat.length_toDigits_le_iff (n := number) (by decide : 1 < 10) hlimit).2 hnumber
  simp only [Time.padded, List.length_append, List.length_replicate, Nat.toString_eq_repr,
    Nat.toList_repr]
  omega

theorem padded_ne_nil (width number : Nat) : Time.padded width number ≠ [] := by
  simp [Time.padded]

theorem natural_toDigits (number : Nat) : Json.Literal.natural (Nat.toDigits 10 number) = number :=
  Nat.ofDigitChars_ten_toDigits

theorem natural_padded (width number : Nat) :
    Time.Rfc3339.natural (Time.padded width number) = number := by
  have hzeros : Nat.ofDigitChars 10
      (List.replicate (width - (Nat.toDigits 10 number).length) '0') 0 = _ :=
    Nat.ofDigitChars_replicate_zero
  calc
    Time.Rfc3339.natural (Time.padded width number) =
        Nat.ofDigitChars 10 (Time.padded width number) 0 := rfl
    _ = Nat.ofDigitChars 10 (Nat.toDigits 10 number) 0 := by
        rw [Time.padded, Nat.toString_eq_repr, Nat.toList_repr, Nat.ofDigitChars_append, hzeros,
          Nat.mul_zero]
    _ = number := Nat.ofDigitChars_ten_toDigits

end Text

end Lifecycle
