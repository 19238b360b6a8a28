import Lifecycle.Proofs.Except
import Lifecycle.Proofs.Text.Decimal

/-!
# Reading a written instant

Every part of the text of an instant is read back by the reader of this part, whatever follows it,
and `Instant.parse_text` puts the parts together. Leap seconds need care: they are written as the
second with the number 60, and the reader has to find the nanoseconds beyond the last second again.
-/

namespace Lifecycle

namespace Time

open Text (IsDecimal EndsDigits isBlank trimStart)

namespace Rfc3339

open Instant (ReadError)

/-! ### Digits -/

theorem isBlank_eq_false_of_isDigit {c : Char} (h : c.isDigit = true) : isBlank c = false := by
  simp only [Char.isDigit, Bool.and_eq_true, decide_eq_true_eq] at h
  have hlow : '0'.toNat ≤ c.toNat := h.1
  have hhigh : c.toNat ≤ '9'.toNat := h.2
  simp only [Char.reduceToNat] at hlow hhigh
  simp only [isBlank, Bool.or_eq_false_iff, Bool.and_eq_false_iff, decide_eq_false_iff_not,
    beq_eq_false_iff_ne]
  omega

theorem trimStart_cons {c : Char} (h : isBlank c = false) (rest : List Char) :
    trimStart (c :: rest) = c :: rest := by
  simp [trimStart, h]

theorem trimStart_digits {digits : List Char} (hne : digits ≠ []) (hdigits : IsDecimal digits)
    (rest : List Char) : trimStart (digits ++ rest) = digits ++ rest := by
  cases digits with
  | nil => exact absurd rfl hne
  | cons c digits =>
    exact trimStart_cons (isBlank_eq_false_of_isDigit (hdigits c List.mem_cons_self)) _

/-- Digits are read up to a limit on their number that they reach, or to their end. -/
theorem readNatural_digits (width : Option Nat) {digits : List Char} (rest : List Char)
    (hne : digits ≠ []) (hdigits : IsDecimal digits) (hsmall : natural digits < 2 ^ 63)
    (hwidth : width = some digits.length ∨
      EndsDigits rest ∧ ∀ limit ∈ width, digits.length ≤ limit) :
    readNatural width (digits ++ rest) = .ok (natural digits, rest) := by
  -- either the limit cuts the digits off, or they end before it
  have htaken : (width.map ((digits ++ rest).takeWhile Char.isDigit).take).getD
      ((digits ++ rest).takeWhile Char.isDigit) = digits := by
    rcases hwidth with rfl | ⟨hrest, hlimit⟩
    · rw [List.takeWhile_append_of_pos hdigits]
      exact List.take_left
    · rw [Text.takeWhile_isDigit_append hdigits hrest]
      cases width with
      | none => rfl
      | some limit => exact List.take_of_length_le (hlimit limit rfl)
  obtain ⟨c, tail, htext⟩ := List.exists_cons_of_ne_nil
    (List.append_ne_nil_of_left_ne_nil hne rest)
  have hc : c.isDigit = true := by
    cases digits with
    | nil => exact absurd rfl hne
    | cons d digits =>
      obtain ⟨rfl, -⟩ := List.cons.inj htext
      exact hdigits _ List.mem_cons_self
  have hdropped : (c :: tail).drop digits.length = rest := by
    rw [← htext, List.drop_left]
  have hbound : natural digits < Nat.pow 2 63 := hsmall
  rw [htext] at htaken ⊢
  simp only [readNatural, hc, ↓reduceIte, htaken, hbound, hdropped]

theorem readNatural_padded (width : Nat) {number : Nat} (hwidth : 0 < width) (hlimit : width ≤ 9)
    (hnumber : number < 10 ^ width) (rest : List Char) :
    readNatural (some width) (padded width number ++ rest) = .ok (number, rest) := by
  have hlength := Text.length_padded hwidth hnumber
  have hsmall : number < 2 ^ 63 :=
    Nat.lt_of_lt_of_le hnumber
      (Nat.le_trans (Nat.pow_le_pow_right (by decide) hlimit) (by decide))
  have hread := readNatural_digits (some width) rest (Text.padded_ne_nil width number)
    (Text.isDecimal_padded width number) (by rwa [Text.natural_padded]) (.inl (by rw [hlength]))
  rwa [Text.natural_padded] at hread

/-! ### The parts -/

theorem readField_padded (low high number : Nat) (hbounds : low ≤ number ∧ number ≤ high)
    (hnumber : number < 100) (rest : List Char) :
    readField low high (padded 2 number ++ rest) = .ok (number, rest) := by
  rw [readField, trimStart_digits (Text.padded_ne_nil _ _) (Text.isDecimal_padded _ _),
    readNatural_padded 2 (by decide) (by decide) hnumber]
  change (if _ then _ else _) = _
  rw [if_pos hbounds]
  rfl

theorem readMark_cons {mark : Char} (h : isBlank mark = false) (rest : List Char) :
    readMark mark (mark :: rest) = .ok rest := by
  rw [readMark, trimStart_cons h]
  exact if_pos rfl

theorem readSeparator_cons (rest : List Char) : readSeparator ('T' :: rest) = .ok rest := by
  simp [readSeparator]

/-- A padded year is read as far as there are digits. -/
theorem readNatural_year {number : Nat} (hnumber : number < 2 ^ 63) {rest : List Char}
    (hrest : EndsDigits rest) :
    readNatural none (padded 4 number ++ rest) = .ok (number, rest) := by
  have hread := readNatural_digits none rest (Text.padded_ne_nil 4 number)
    (Text.isDecimal_padded 4 number) (by rwa [Text.natural_padded])
    (.inr ⟨hrest, fun limit hlimit => absurd hlimit (by simp)⟩)
  rwa [Text.natural_padded] at hread

/-- A year without a sign has four digits. -/
theorem readYear_unsigned {number : Nat} (hnumber : number < 10 ^ 4) (rest : List Char) :
    readYear (padded 4 number ++ rest) = .ok ((number : Int), rest) := by
  have hread := readNatural_padded 4 (by decide) (by decide) hnumber rest
  have hyear : -2147483648 ≤ (number : Int) ∧ (number : Int) ≤ 2147483647 := by omega
  have hdigit : ∀ c ∈ (padded 4 number ++ rest).head?, c.isDigit = true := by
    obtain ⟨c, digits, hdigits⟩ := List.exists_cons_of_ne_nil (Text.padded_ne_nil 4 number)
    have hc := Text.isDecimal_padded 4 number c (by simp [hdigits])
    simpa [hdigits] using hc
  rw [readYear, trimStart_digits (Text.padded_ne_nil _ _) (Text.isDecimal_padded _ _)]
  -- the text begins with a digit, so that neither sign is there
  split
  · next htext =>
    rw [htext] at hdigit
    exact absurd (hdigit '-' rfl) (by decide)
  · next htext =>
    rw [htext] at hdigit
    exact absurd (hdigit '+' rfl) (by decide)
  · simp only [hread, Except.ok_bind, Except.pure_eq_ok]
    rw [if_pos hyear]

/-- A year after a sign has any number of digits. -/
theorem readYear_signed {number : Nat} (hnumber : number < 2 ^ 31) {rest : List Char}
    (hrest : EndsDigits rest) :
    readYear ('-' :: (padded 4 number ++ rest)) = .ok (-(number : Int), rest) ∧
      readYear ('+' :: (padded 4 number ++ rest)) = .ok ((number : Int), rest) := by
  have hread := readNatural_year (Nat.lt_trans hnumber (by decide)) hrest
  constructor
  · rw [readYear, trimStart_cons (by decide)]
    simp only [hread, Except.ok_bind, Except.pure_eq_ok]
    rw [if_pos (by omega)]
  · rw [readYear, trimStart_cons (by decide)]
    simp only [hread, Except.ok_bind, Except.pure_eq_ok]
    rw [if_pos (by omega)]

/-- The year of a date is read back. -/
theorem readYear_writeYear (date : Date) {rest : List Char} (hrest : EndsDigits rest) :
    readYear (writeYear date.year ++ rest) = .ok (date.year, rest) := by
  have hvalid := date.valid.1
  simp only [firstYear, lastYear] at hvalid
  rw [writeYear]
  -- only years of four digits are written without a sign
  by_cases hfour : 0 ≤ date.year ∧ date.year ≤ 9999
  · rw [if_pos hfour, readYear_unsigned (by omega), Int.toNat_of_nonneg hfour.1]
  have hsmall : date.year.natAbs < 2 ^ 31 := by omega
  obtain ⟨hminus, hplus⟩ := readYear_signed hsmall hrest
  rw [if_neg hfour, List.cons_append]
  by_cases hsign : date.year < 0
  · have hyear : -(date.year.natAbs : Int) = date.year := by omega
    rw [if_pos hsign, hminus, hyear]
  · have hyear : (date.year.natAbs : Int) = date.year := by omega
    rw [if_neg hsign, hplus, hyear]

/-- A fraction of at most nine digits counts in nanoseconds. -/
theorem readFraction_padded {width number : Nat} (hwidth : 0 < width) (hlimit : width ≤ 9)
    (hnumber : number < 10 ^ width) {rest : List Char} (hrest : EndsDigits rest) :
    readFraction ('.' :: (padded width number ++ rest)) =
      .ok (number * 10 ^ (9 - width), rest) := by
  have hlength := Text.length_padded hwidth hnumber
  have hsmall : number < 2 ^ 63 :=
    Nat.lt_of_lt_of_le hnumber
      (Nat.le_trans (Nat.pow_le_pow_right (by decide) hlimit) (by decide))
  have hread := readNatural_digits (some 9) rest
    (Text.padded_ne_nil width number) (Text.isDecimal_padded width number)
    (by rwa [Text.natural_padded]) (.inr ⟨hrest, by simpa [hlength] using hlimit⟩)
  have hpower : Nat.pow 10 (9 - width) = 10 ^ (9 - width) := rfl
  rw [Text.natural_padded] at hread
  simp only [readFraction, hread, Text.takeWhile_isDigit_append (Text.isDecimal_padded _ _) hrest,
    Text.dropWhile_isDigit_append (Text.isDecimal_padded _ _) hrest, hlength, hpower]
  rfl

theorem readFraction_writeFraction {nano : Nat} (hnano : nano < nanosPerSecond) :
    readFraction (writeFraction nano ++ ['Z']) = .ok (nano, ['Z']) := by
  have hend : EndsDigits ['Z'] := by
    simp [EndsDigits]
  unfold nanosPerSecond at hnano
  rw [writeFraction]
  -- the fraction is written with none, three, six or nine digits
  by_cases hzero : nano = 0
  · rw [if_pos hzero, hzero]
    rfl
  rw [if_neg hzero]
  by_cases hmilli : nano % 1000000 = 0
  · have hscaled : nano / 1000000 * 10 ^ (9 - 3) = nano :=
      Nat.div_mul_cancel (Nat.dvd_of_mod_eq_zero hmilli)
    rw [if_pos hmilli, List.cons_append,
      readFraction_padded (by decide) (by decide) (by omega) hend, hscaled]
  rw [if_neg hmilli]
  by_cases hmicro : nano % 1000 = 0
  · have hscaled : nano / 1000 * 10 ^ (9 - 6) = nano :=
      Nat.div_mul_cancel (Nat.dvd_of_mod_eq_zero hmicro)
    rw [if_pos hmicro, List.cons_append,
      readFraction_padded (by decide) (by decide) (by omega) hend, hscaled]
  · rw [if_neg hmicro, List.cons_append,
      readFraction_padded (by decide) (by decide) hnano hend, Nat.sub_self, Nat.pow_zero,
      Nat.mul_one]

theorem readOffset_zulu : readOffset ['Z'] = .ok (0, []) := by
  rfl

/-! ### The whole -/

/-- A moment, read as the local time of a place without an offset, is the moment. -/
theorem ofLocal?_zero (instant : Instant) : instant.ofLocal? 0 = some instant := by
  have hminute : instant.minute < 1440 := instant.valid.1
  have hshifted : ¬ (instant.minute : Int) - 0 < 0 := by omega
  have hday : (instant.minute : Int) - 0 < (minutesPerDay : Nat) := by
    simp only [minutesPerDay]
    omega
  have hsame : (((instant.minute : Int) - 0) % (minutesPerDay : Nat)).toNat = instant.minute := by
    simp only [minutesPerDay]
    omega
  simp only [Instant.ofLocal?, hshifted, hday, ↓reduceIte, Option.map_some, hsame]

/-- The parts of a moment assemble the moment. -/
theorem assemble_parts (instant : Instant) :
    assemble instant.date.year instant.date.month instant.date.day (instant.minute / 60)
      (instant.minute % 60) (instant.second + instant.nano / nanosPerSecond)
      (instant.nano % nanosPerSecond) 0 = .ok instant := by
  have hdate : Date.of? instant.date.year instant.date.month instant.date.day =
      some instant.date := dif_pos instant.date.valid
  obtain ⟨hminute, hsecond, hnano⟩ := instant.valid
  have hminuteOfDay : 60 * (instant.minute / 60) + instant.minute % 60 = instant.minute :=
    Nat.div_add_mod _ _
  have hlast : min (instant.second + instant.nano / nanosPerSecond) 59 = instant.second := by
    simp only [nanosPerSecond] at hnano ⊢
    omega
  -- in a leap second, the nanoseconds go beyond one second
  have hnanos : (if instant.second + instant.nano / nanosPerSecond = 60 then
      nanosPerSecond + instant.nano % nanosPerSecond else instant.nano % nanosPerSecond) =
        instant.nano := by
    by_cases hleap : instant.second + instant.nano / nanosPerSecond = 60
    · rw [if_pos hleap]
      simp only [nanosPerSecond] at hnano hleap ⊢
      omega
    · rw [if_neg hleap]
      simp only [nanosPerSecond] at hnano hleap ⊢
      omega
  have hoffset : ¬ minutesPerDay ≤ (0 : Int).natAbs := by
    decide
  simp only [assemble, hdate, hminuteOfDay, hlast, hnanos, instant.valid, ↓reduceDIte, hoffset,
    ↓reduceIte, ofLocal?_zero]
  rfl

theorem daysInMonth_le (year : Int) (month : Nat) : daysInMonth year month ≤ 31 := by
  unfold daysInMonth
  split
  · split <;> decide
  · split <;> decide

/-- A moment is written with a second up to 60, which is a leap second. -/
theorem lastSecond_le (instant : Instant) :
    instant.second + instant.nano / nanosPerSecond ≤ 60 := by
  obtain ⟨-, hsecond, hnano⟩ := instant.valid
  simp only [nanosPerSecond] at hnano ⊢
  omega

theorem read_write (instant : Instant) : read instant.write = .ok instant := by
  obtain ⟨-, hmonth, hday, hlast⟩ := instant.date.valid
  have hdays := daysInMonth_le instant.date.year instant.date.month
  have hminute := instant.valid.1
  simp only [minutesPerDay] at hminute
  have hlastSecond := lastSecond_le instant
  have hhyphen (rest : List Char) : EndsDigits ('-' :: rest) := by
    simp [EndsDigits]
  -- each field lies between the bounds that its reader checks
  have hmonthRead := readField_padded 1 12 instant.date.month hmonth (by omega)
  have hdayRead := readField_padded 1 31 instant.date.day ⟨hday, by omega⟩ (by omega)
  have hhourRead := readField_padded 0 23 (instant.minute / 60) (by omega) (by omega)
  have hminuteRead := readField_padded 0 59 (instant.minute % 60) (by omega) (by omega)
  have hsecondRead := readField_padded 0 60 (instant.second + instant.nano / nanosPerSecond)
    ⟨Nat.zero_le _, hlastSecond⟩ (by omega)
  have hfraction : instant.nano % nanosPerSecond < nanosPerSecond := Nat.mod_lt _ (by decide)
  simp only [Instant.write, writeDate, List.append_assoc, List.cons_append, read,
    readYear_writeYear _ (hhyphen _), readMark_cons (show isBlank '-' = false by decide),
    readMark_cons (show isBlank ':' = false by decide), hmonthRead, hdayRead, hhourRead,
    hminuteRead, hsecondRead, readFraction_writeFraction hfraction, readSeparator_cons,
    readOffset_zulu, Except.ok_bind, trimStart, List.dropWhile_nil, List.isEmpty_nil, ↓reduceIte]
  exact assemble_parts instant

/-! ### Lengths -/

theorem length_writeYear_le (date : Date) : (writeYear date.year).length ≤ 7 := by
  have hvalid := date.valid.1
  simp only [firstYear, lastYear] at hvalid
  rw [writeYear]
  split
  · exact Text.length_padded_le (by decide) (by omega) (by decide)
  · exact Nat.succ_le_succ (Text.length_padded_le (by decide) (by omega) (by decide))

theorem length_writeFraction_le {nano : Nat} (hnano : nano < nanosPerSecond) :
    (writeFraction nano).length ≤ 10 := by
  unfold nanosPerSecond at hnano
  rw [writeFraction]
  split
  · exact Nat.zero_le _
  split
  · exact Nat.succ_le_succ (Text.length_padded_le (by decide) (by omega) (by decide))
  split
  · exact Nat.succ_le_succ (Text.length_padded_le (by decide) (by omega) (by decide))
  · exact Nat.succ_le_succ (Text.length_padded_le (by decide) (by omega) (by decide))

/-- The text of a moment is short: a year of six digits with its sign and a fraction of nine digits
are the longest. -/
theorem length_write_le (instant : Instant) : instant.write.length ≤ 33 := by
  obtain ⟨-, hmonth, hday, hlast⟩ := instant.date.valid
  have hdays := daysInMonth_le instant.date.year instant.date.month
  have hminute := instant.valid.1
  simp only [minutesPerDay] at hminute
  have hlastSecond := lastSecond_le instant
  have htwo {number : Nat} (hnumber : number ≤ 99) : (padded 2 number).length = 2 :=
    Text.length_padded (by decide) (by omega)
  have hyear := length_writeYear_le instant.date
  have hfraction := length_writeFraction_le
    (show instant.nano % nanosPerSecond < nanosPerSecond from Nat.mod_lt _ (by decide))
  simp only [Instant.write, writeDate, List.length_append, List.length_cons, List.length_nil,
    htwo (show instant.date.month ≤ 99 by omega), htwo (show instant.date.day ≤ 99 by omega),
    htwo (show instant.minute / 60 ≤ 99 by omega), htwo (show instant.minute % 60 ≤ 99 by omega),
    htwo (Nat.le_trans hlastSecond (show 60 ≤ 99 by decide))]
  omega

end Rfc3339

/-- Reading the text of an instant gives the instant. -/
theorem Instant.parse_text (instant : Instant) : parse instant.text = .ok instant := by
  rw [parse, text, String.toList_ofList]
  exact Rfc3339.read_write instant

end Time

end Lifecycle
